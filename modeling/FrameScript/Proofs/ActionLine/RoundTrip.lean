import FrameScript.Proofs.ActionLine.CanonicalText

/-!
# Reading the canonical text back

The canonical text of a line is read as that line if the line is expressible, and only then. Going
on with the fields of one input after another, the draft becomes a copy of the line as far as the
inputs have been read: it holds these inputs and no others, and the aim of the line from feather
on. Once all inputs have been read, the copy is the line.

## Main definitions

* `ActionLine.Draft.Copies` — the draft is the line as far as certain inputs go

## Main results

* `ActionLine.Draft.Copies.foldlM_read` — reading the fields of inputs keeps copying the line
* `ActionLine.parse_render_iff` — a line is read from its canonical text if and only if it is
  expressible, and every line that has been read is
-/

namespace FrameScript

namespace ActionLine

/-! ### Fields of the canonical text -/

theorem names_letter (i : Input) : Names [i.letter] i :=
  ⟨i.letter, rfl, Input.ofLetter?_eq_some_iff.mp (Input.ofLetter?_letter i)⟩

theorem isNumber_toText {x : Binary64} (h : x.isFinite = true) : IsNumber x.toText x := by
  refine ⟨?_, Binary64.ofText?_toText h, h⟩
  obtain ⟨c, rest, htext⟩ := List.exists_cons_of_ne_nil (Binary64.toText_ne_nil h)
  have hc : c ∈ x.toText := htext ▸ List.mem_cons_self ..
  refine ⟨c, by rw [htext]; rfl, ?_⟩
  rcases Binary64.mem_toText h hc with hdigit | rfl | rfl
  · exact Or.inl hdigit
  · exact Or.inr (Or.inr (Or.inl rfl))
  · exact Or.inr (Or.inr (Or.inr rfl))

namespace Draft

theorem read_letter (draft : Draft) (i : Input) :
    draft.read [i.letter] =
      .ok ⟨draft.line.addInput i, if i = .feather then .angle else .nothing⟩ :=
  read_eq_ok_iff.mpr (Or.inl ⟨i, names_letter i, rfl⟩)

theorem read_angle (line : ActionLine) {x : Binary64} (h : x.isFinite = true) :
    read ⟨line, .angle⟩ x.toText = .ok ⟨line.withAngle x, .magnitude⟩ :=
  read_eq_ok_iff.mpr (Or.inr (Or.inl ⟨x, isNumber_toText h, rfl, rfl⟩))

theorem read_magnitude (line : ActionLine) {x : Binary64} (h : x.isFinite = true) :
    read ⟨line, .magnitude⟩ x.toText = .ok ⟨line.withMagnitude x, .nothing⟩ :=
  read_eq_ok_iff.mpr (Or.inr (Or.inr ⟨x, isNumber_toText h, rfl, rfl⟩))

/-! ### One input after another -/

/-- The draft is the line as far as the given inputs go. -/
structure Copies (draft : Draft) (line : ActionLine) (inputs : List Input) : Prop where
  frames : draft.line.frames = line.frames
  width : draft.line.width = line.width
  mem_iff : ∀ i, i ∈ draft.line.inputs ↔ i ∈ inputs
  aim : draft.line.aim = if .feather ∈ inputs then line.aim else none

namespace Copies

variable {draft : Draft} {line : ActionLine} {inputs : List Input}

theorem mem_addInput (h : Copies draft line inputs) (i j : Input) :
    j ∈ (draft.line.addInput i).inputs ↔ j ∈ inputs ++ [i] := by
  rw [addInput, InputSet.mem_insert, h.mem_iff, List.mem_append, List.mem_singleton,
    eq_comm (a := i)]

/-- An input other than feather is its letter. -/
theorem read_other (h : Copies draft line inputs) {i : Input} (hi : i ≠ .feather) :
    ∃ after, (line.tokenFields i).foldlM read draft = .ok after ∧
      Copies after line (inputs ++ [i]) := by
  refine ⟨⟨draft.line.addInput i, if i = .feather then .angle else .nothing⟩, ?_, h.frames,
    h.width, h.mem_addInput i, ?_⟩
  · rw [tokenFields, if_neg hi, List.foldlM_cons, read_letter]
    rfl
  · have hmem : Input.feather ∈ inputs ++ [i] ↔ Input.feather ∈ inputs := by
      simp [Ne.symm hi]
    simp only [hmem]
    exact h.aim

/-- Feather is its letter and then the numbers of the aim. They replace whatever aim the draft
has, which is that of the line or none. -/
theorem read_feather (h : Copies draft line inputs) (hline : line.Expressible) :
    ∃ after, (line.tokenFields .feather).foldlM read draft = .ok after ∧
      Copies after line (inputs ++ [.feather]) := by
  have hangle := hline.angle_finite
  have hmagnitude := hline.magnitude_finite
  have hbefore := h.aim
  have hmem := h.mem_addInput .feather
  have hin : Input.feather ∈ inputs ++ [.feather] := by simp
  -- an angle holds feather once more, which adds nothing
  have hagain : ∀ j, j ∈ ((draft.line.addInput .feather).inputs.insert .feather) ↔
      j ∈ inputs ++ [.feather] := fun j => by
    rw [InputSet.mem_insert, hmem]
    exact or_iff_left_of_imp fun hj => hj ▸ hin
  rw [angle?] at hangle
  rw [magnitude?] at hmagnitude
  simp only [tokenFields, if_true, numbers, List.foldlM_cons, read_letter, Outcome.ok_bind]
  rcases haim : line.aim with _ | ⟨angle, _ | magnitude⟩ <;>
    simp only [haim, Option.map_some, Option.bind_some] at hangle hmagnitude hbefore
  · refine ⟨⟨draft.line.addInput .feather, .angle⟩, rfl, h.frames, h.width, hmem, ?_⟩
    rw [if_pos hin, haim]
    exact hbefore.trans (ite_self none)
  · refine ⟨⟨(draft.line.addInput .feather).withAngle angle, .magnitude⟩, ?_, h.frames, h.width,
      hagain, ?_⟩
    · rw [List.foldlM_cons, read_angle _ (hangle angle rfl)]
      rfl
    · rw [if_pos hin, haim]
      show some (Aim.mk angle (draft.line.aim.bind Aim.magnitude)) = _
      rw [hbefore]
      split <;> rfl
  · refine ⟨⟨((draft.line.addInput .feather).withAngle angle).withMagnitude magnitude, .nothing⟩,
      ?_, h.frames, h.width, hagain, ?_⟩
    · rw [List.foldlM_cons, read_angle _ (hangle angle rfl), Outcome.ok_bind, List.foldlM_cons,
        read_magnitude _ (hmagnitude magnitude rfl)]
      rfl
    · rw [if_pos hin, haim]
      rfl

/-- **One input.** Reading its fields copies it. -/
theorem read_token (h : Copies draft line inputs) (hline : line.Expressible) (i : Input) :
    ∃ after, (line.tokenFields i).foldlM read draft = .ok after ∧
      Copies after line (inputs ++ [i]) := by
  by_cases hi : i = .feather
  · subst hi
    exact h.read_feather hline
  · exact h.read_other hi

/-- **All inputs.** Reading their fields copies them. -/
theorem foldlM_read (h : Copies draft line inputs) (hline : line.Expressible)
    (more : List Input) :
    ∃ after, (more.flatMap line.tokenFields).foldlM read draft = .ok after ∧
      Copies after line (inputs ++ more) := by
  induction more generalizing draft inputs with
  | nil => exact ⟨draft, rfl, by rwa [List.append_nil]⟩
  | cons i more ih =>
    obtain ⟨next, hnext, hcopies⟩ := h.read_token hline i
    obtain ⟨after, hafter, hall⟩ := ih hcopies
    refine ⟨after, ?_, by rwa [List.append_cons]⟩
    rw [List.flatMap_cons, List.foldlM_append, hnext]
    exact hafter

/-- A copy of all inputs is the line. -/
theorem line_eq (h : Copies draft line line.inputs.members) (hline : line.Expressible)
    (hknown : draft.line.inputs.isKnown = true) : draft.line = line := by
  refine ActionLine.ext h.frames ?_ ?_ h.width
  · refine InputSet.eq_of_has_eq hknown hline.known fun i => Bool.eq_iff_iff.mpr ?_
    rw [← InputSet.mem_iff, ← InputSet.mem_iff, h.mem_iff, InputSet.mem_members]
  · rw [h.aim]
    split
    · rfl
    · rename_i hfeather
      cases haim : line.aim with
      | none => rfl
      | some aim =>
        exact absurd (InputSet.mem_members.mpr (line.feather_of_aim (by rw [haim]; rfl))) hfeather

end Copies

theorem copies_start (line : ActionLine) :
    Copies (.start line.width.columns line.frames) line [] := by
  refine ⟨rfl, FrameWidth.clamp_columns line.width, ?_, rfl⟩
  intro i
  simp [start, ofFrames, withWidth, InputSet.mem_iff]

end Draft

/-! ### Whole lines -/

theorem isFrames_wholeText {line : ActionLine} (h : line.Expressible) :
    IsFrames (.clamp line.width.columns) (Decimal.wholeText line.frames) := by
  rw [FrameWidth.clamp_columns]
  exact ⟨Decimal.wholeText_ne_nil _, fun c hc => Decimal.isDigit_of_mem_wholeText hc, h.digits_le⟩

theorem parse_render {line : ActionLine} (h : line.Expressible) :
    parse line.width.columns line.render = .ok line := by
  obtain ⟨⟨copy, awaits⟩, hread, hcopies⟩ :=
    (Draft.copies_start line).foldlM_read h line.inputs.members
  have hknown : copy.inputs.isKnown = true :=
    Draft.foldlM_read_induction (P := fun l => l.inputs.isKnown = true)
      (fun _ i hl => InputSet.isKnown_insert hl i) (fun _ _ _ hl => InputSet.isKnown_insert hl _)
      (fun _ _ _ hl => hl) hread InputSet.isKnown_empty
  have hcopy : copy = line := hcopies.line_eq h hknown
  subst hcopy
  refine parse_eq_ok_iff.mpr ⟨trim_render_ne_nil h, _, _, awaits, fields_render h,
    isFrames_wholeText h, ?_⟩
  rwa [Decimal.digitsValue_wholeText]

/-- A width beyond the limits is read like the width nearest to it. -/
theorem parse_clamp (columns : Nat) (text : Text) :
    parse (FrameWidth.clamp columns).columns text = parse columns text := by
  simp only [parse, withWidth, FrameWidth.clamp_columns]

/-- **Reading the canonical text back.** A line is read from its canonical text exactly if its
frame count fits its field, its flags all mean inputs, and angle and magnitude are finite. Every
line that has been read is such a line, and so is read again from its canonical text, which is
then written as it was. -/
theorem parse_render_iff :
    (∀ line : ActionLine,
      parse line.width.columns line.render = .ok line ↔ line.Expressible) ∧
    ∀ (columns : Nat) (text : Text) (line : ActionLine), parse columns text = .ok line →
      line.Expressible ∧ parse columns line.render = .ok line ∧
        (parse columns line.render).map render = .ok line.render := by
  refine ⟨fun line => ⟨expressible_of_parse, parse_render⟩, ?_⟩
  intro columns text line h
  have hback : parse columns line.render = .ok line := by
    have hsame := parse_render (expressible_of_parse h)
    rwa [(frames_width_of_parse h).1, parse_clamp] at hsame
  exact ⟨expressible_of_parse h, hback, by rw [hback]; rfl⟩

/-- A line with its frame count padded, its inputs out of order and its angle spelled otherwise. -/
theorem parse_render_of_untidy :
    ∃ line, parse 4 "020,f,.50,r".toList = .ok line ∧ line.Expressible ∧
      parse 4 line.render = .ok line := by
  obtain ⟨line, hread⟩ : ∃ line, parse 4 "020,f,.50,r".toList = .ok line :=
    exists_parse_of_isSome (by decide +kernel)
  obtain ⟨hline, hback, -⟩ := parse_render_iff.2 4 _ line hread
  exact ⟨line, hread, hline, hback⟩

end ActionLine

end FrameScript
