import FrameScript.ActionLine.Layout
import FrameScript.Proofs.ActionLine.Field

/-!
# Lines that can be written down

The canonical text of a line says all of it if the frame count fits its field, no flag is set that
means nothing, and angle and magnitude are finite numbers. Such lines are *expressible*, and every
line that is read is one: reading only ever adds inputs and finite numbers to a line, and what such
additions preserve holds of the whole line. `Draft.foldlM_read_induction` is that induction, once
for all properties of lines.

## Main results

* `ActionLine.Draft.foldlM_read_induction` — what every addition preserves, reading preserves
* `ActionLine.expressible_of_parse` — a line that has been read is expressible
-/

namespace FrameScript

namespace Decimal

/-- So many digits stay below the power of ten with so many zeros. -/
theorem digitsValue_lt {digits : Text} (h : ∀ c ∈ digits, c.isDigit = true) :
    digitsValue digits < Nat.pow 10 digits.length := by
  induction digits with
  | nil => decide
  | cons c rest ih =>
    have hrest := ih fun d hd => h d (List.mem_cons_of_mem _ hd)
    have hc : c.toNat - '0'.toNat ≤ 9 := by
      have hle := of_decide_eq_true (Bool.and_eq_true_iff.mp (h c (List.mem_cons_self ..))).2
      exact Nat.sub_le_of_le_add hle
    rw [digitsValue, Nat.ofDigitChars_cons, Nat.ofDigitChars_eq_ofDigitChars_zero, Nat.mul_zero,
      Nat.zero_add, ← digitsValue]
    calc 10 ^ rest.length * (c.toNat - '0'.toNat) + digitsValue rest
        ≤ 10 ^ rest.length * 9 + digitsValue rest :=
          Nat.add_le_add_right (Nat.mul_le_mul_left _ hc) _
      _ < 10 ^ rest.length * 9 + 10 ^ rest.length := Nat.add_lt_add_left hrest _
      _ = Nat.pow 10 (rest.length + 1) := by
          rw [Nat.pow_eq, Nat.pow_succ]
          omega

end Decimal

/-- A run of digits has at least as many digits as the number that it stands for. -/
theorem digitCount_digitsValue_le {digits : Text} (hne : digits ≠ [])
    (h : ∀ c ∈ digits, c.isDigit = true) :
    digitCount (Decimal.digitsValue digits) ≤ digits.length :=
  (Nat.length_toDigits_le_iff (by decide) (List.length_pos_iff.mpr hne)).mpr
    (Decimal.digitsValue_lt h)

namespace ActionLine

/-- The canonical text of the line says all of it. -/
structure Expressible (line : ActionLine) : Prop where
  digits_le : line.digits ≤ line.width.columns
  known : line.inputs.isKnown = true
  angle_finite : ∀ x ∈ line.angle?, x.isFinite = true
  magnitude_finite : ∀ x ∈ line.magnitude?, x.isFinite = true

/-! ### Reading preserves -/

namespace Draft

variable {P : ActionLine → Prop}

/-- **Reading preserves** whatever another input and a finite angle or magnitude preserve. -/
theorem foldlM_read_induction (hinput : ∀ line i, P line → P (line.addInput i))
    (hangle : ∀ line x, x.isFinite = true → P line → P (line.withAngle x))
    (hmagnitude : ∀ line x, x.isFinite = true → P line → P (line.withMagnitude x))
    {fields : List Text} {draft after : Draft} (h : fields.foldlM read draft = .ok after)
    (hdraft : P draft.line) : P after.line := by
  induction fields generalizing draft with
  | nil =>
    cases h
    exact hdraft
  | cons field rest ih =>
    rw [List.foldlM_cons, Outcome.bind_eq_ok_iff] at h
    obtain ⟨next, hnext, hrest⟩ := h
    refine ih hrest ?_
    rcases read_eq_ok_iff.mp hnext with ⟨i, -, rfl⟩ | ⟨x, hx, -, rfl⟩ | ⟨x, hx, -, rfl⟩
    · exact hinput _ i hdraft
    · exact hangle _ x hx.2.2 hdraft
    · exact hmagnitude _ x hx.2.2 hdraft

end Draft

/-- The frame count and its width are those that reading began with. -/
theorem frames_width_of_parse {columns : Nat} {text : Text} {line : ActionLine}
    (h : parse columns text = .ok line) :
    line.width = .clamp columns ∧ ∃ first ∈ (fields text).head?,
      IsFrames (.clamp columns) first ∧ line.frames = Decimal.digitsValue first := by
  obtain ⟨-, first, rest, awaits, hfields, hfirst, hread⟩ := parse_eq_ok_iff.mp h
  have hkept : line.width = .clamp columns ∧ line.frames = Decimal.digitsValue first :=
    Draft.foldlM_read_induction
      (P := fun l => l.width = .clamp columns ∧ l.frames = Decimal.digitsValue first)
      (fun _ _ hl => hl) (fun _ _ _ hl => hl) (fun _ _ _ hl => hl) hread ⟨rfl, rfl⟩
  exact ⟨hkept.1, first, by rw [hfields]; rfl, hfirst, hkept.2⟩

/-- **A line that has been read is expressible.** -/
theorem expressible_of_parse {columns : Nat} {text : Text} {line : ActionLine}
    (h : parse columns text = .ok line) : line.Expressible := by
  obtain ⟨hwidth, first, -, ⟨hne, hdigits, hlength⟩, hframes⟩ := frames_width_of_parse h
  obtain ⟨-, _, rest, awaits, -, -, hread⟩ := parse_eq_ok_iff.mp h
  have hkept : line.inputs.isKnown = true ∧ (∀ x ∈ line.angle?, x.isFinite = true) ∧
      ∀ x ∈ line.magnitude?, x.isFinite = true := by
    refine Draft.foldlM_read_induction (P := fun l => l.inputs.isKnown = true ∧
      (∀ x ∈ l.angle?, x.isFinite = true) ∧ ∀ x ∈ l.magnitude?, x.isFinite = true)
      ?_ ?_ ?_ hread ⟨InputSet.isKnown_empty, ?_, ?_⟩
    · rintro l i ⟨hknown, hangle, hmagnitude⟩
      exact ⟨InputSet.isKnown_insert hknown i, hangle, hmagnitude⟩
    · rintro l x hx ⟨hknown, -, hmagnitude⟩
      refine ⟨InputSet.isKnown_insert hknown .feather, ?_, hmagnitude⟩
      rintro y hy
      cases hy
      exact hx
    · rintro l x hx ⟨hknown, hangle, -⟩
      refine ⟨hknown, ?_, ?_⟩
      · rwa [angle?_withMagnitude]
      · rw [magnitude?_withMagnitude]
        intro y hy
        obtain ⟨_, -, rfl⟩ := Option.map_eq_some_iff.mp hy
        exact hx
    · exact fun _ hy => nomatch hy
    · exact fun _ hy => nomatch hy
  refine ⟨?_, hkept.1, hkept.2.1, hkept.2.2⟩
  rw [digits, hframes, hwidth]
  exact Nat.le_trans (digitCount_digitsValue_le hne hdigits) hlength

theorem expressible_of_parse? {columns : Nat} {text : Text} {line : ActionLine}
    (h : parse? columns text = some line) : line.Expressible :=
  expressible_of_parse (parse?_eq_some_iff.mp h)

end ActionLine

end FrameScript
