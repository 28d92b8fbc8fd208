import FrameScript.ActionLine.Parser
import FrameScript.Proofs.Outcome

/-!
# What a field says

Three kinds of fields make up an action line, and each is described here by what it says, not by
how it is read: the digits of a frame count, the letter of an input, a finite number. Reading a
field after the frame count is then one of three things, and `Draft.read_eq_ok_iff` says which:
whatever is proved about the lines that are read follows from it.

## Main definitions

* `ActionLine.IsFrames` — the field holds a frame count of at most so many digits
* `ActionLine.Names` — the field is the letter of an input, in either case
* `ActionLine.IsNumber` — the field is a finite number and begins like one

## Main results

* `ActionLine.Draft.read_eq_ok_iff` — everything that reading a field can do to a draft
* `ActionLine.parse_eq_ok_iff` — a line is its frame count and then the fields, one by one
-/

namespace FrameScript

namespace ActionLine

/-! ### Kinds of fields -/

/-- The field is a run of ASCII digits, at least one and at most so many. -/
def IsFrames (width : FrameWidth) (field : Text) : Prop :=
  field ≠ [] ∧ (∀ c ∈ field, c.isDigit = true) ∧ field.length ≤ width.columns

/-- The field is a single character, the letter of the input up to ASCII case. -/
def Names (field : Text) (i : Input) : Prop := ∃ c, field = [c] ∧ c.toUpper = i.letter

/-- The field begins with a digit, a sign or a point and is read as a finite number. -/
def IsNumber (field : Text) (x : Binary64) : Prop :=
  (∃ c ∈ field.head?, c.isDigit = true ∨ c = '+' ∨ c = '-' ∨ c = '.') ∧
    Binary64.ofText? field = some x ∧ x.isFinite = true

theorem startsNumber_iff {field : Text} :
    startsNumber field = true ↔
      ∃ c ∈ field.head?, c.isDigit = true ∨ c = '+' ∨ c = '-' ∨ c = '.' := by
  cases field with
  | nil => simp [startsNumber]
  | cons c rest => simp [startsNumber, or_assoc, or_left_comm]

theorem readFrames_eq_ok_iff {width : FrameWidth} {field : Text} {frames : Nat} :
    readFrames width field = .ok frames ↔
      IsFrames width field ∧ frames = Decimal.digitsValue field := by
  rw [readFrames, IsFrames]
  by_cases hdigits : field ≠ [] ∧ ∀ c ∈ field, c.isDigit = true
  · rw [if_neg (by simpa using hdigits)]
    by_cases hlong : width.columns < field.length
    · rw [if_pos hlong]
      simp only [reduceCtorEq, false_iff]
      rintro ⟨⟨-, -, hle⟩, -⟩
      exact Nat.not_lt.mpr hle hlong
    · rw [if_neg hlong, Except.ok.injEq, eq_comm]
      exact (and_iff_right ⟨hdigits.1, hdigits.2, Nat.not_lt.mp hlong⟩).symm
  · rw [if_pos (by simpa [Classical.or_iff_not_imp_left] using hdigits)]
    simp only [reduceCtorEq, false_iff]
    rintro ⟨⟨hne, hall, -⟩, -⟩
    exact hdigits ⟨hne, hall⟩

theorem readValue_eq_ok_iff {field : Text} {x : Binary64} :
    readValue field = .ok x ↔ Binary64.ofText? field = some x ∧ x.isFinite = true := by
  rw [readValue]
  cases hread : Binary64.ofText? field with
  | none => simp
  | some value =>
    dsimp only
    by_cases hfinite : value.isFinite = true
    · rw [if_pos hfinite, Except.ok.injEq, Option.some.injEq]
      exact ⟨fun h => ⟨h, h ▸ hfinite⟩, fun h => h.1⟩
    · rw [if_neg hfinite]
      simp only [reduceCtorEq, Option.some.injEq, false_iff]
      rintro ⟨rfl, hx⟩
      exact hfinite hx

theorem readInput_eq_ok_iff {field : Text} {i : Input} :
    readInput field = .ok i ↔ Names field i := by
  rcases field with _ | ⟨c, _ | ⟨d, rest⟩⟩
  · simp [readInput, Names]
  · rw [show Names [c] i ↔ Input.ofLetter? c = some i by
      simp [Names, Input.ofLetter?_eq_some_iff], readInput]
    cases Input.ofLetter? c with
    | none => simp
    | some j => simp
  · simp [readInput, Names]

/-- Of the fields that begin like numbers, those that are read are the numbers. -/
theorem isNumber_iff_readValue {field : Text} (hstart : startsNumber field = true) (x : Binary64) :
    IsNumber field x ↔ readValue field = .ok x := by
  rw [readValue_eq_ok_iff, IsNumber, ← startsNumber_iff]
  exact and_iff_right hstart

/-! ### Letters are no numbers -/

theorem names_unique {field : Text} {i j : Input} (hi : Names field i) (hj : Names field j) :
    i = j := by
  rw [← readInput_eq_ok_iff] at hi hj
  exact Except.ok.inj (hi.symm.trans hj)

theorem isNumber_unique {field : Text} {x y : Binary64} (hx : IsNumber field x)
    (hy : IsNumber field y) : x = y :=
  Option.some.inj (hx.2.1.symm.trans hy.2.1)

/-- Digits, signs and the point come before all letters. -/
theorem le_nine_of_startsNumber {c : Char} {rest : Text} (h : startsNumber (c :: rest) = true) :
    c ≤ '9' := by
  obtain ⟨d, hd, hkind⟩ := startsNumber_iff.mp h
  cases hd
  rcases hkind with hdigit | rfl | rfl | rfl
  · exact of_decide_eq_true (Bool.and_eq_true_iff.mp hdigit).2
  all_goals decide

theorem toUpper_of_le_nine {c : Char} (h : c ≤ '9') : c.toUpper = c :=
  dif_neg fun hlower => absurd (Nat.le_trans hlower.1 h) (by decide)

/-- No letter of an input, in either case, begins a number. -/
theorem not_startsNumber_of_names {field : Text} {i : Input} (h : Names field i) :
    startsNumber field = false := by
  obtain ⟨c, rfl, hc⟩ := h
  cases hstart : startsNumber [c] with
  | false => rfl
  | true =>
    have hle : c ≤ '9' := le_nine_of_startsNumber hstart
    rw [toUpper_of_le_nine hle] at hc
    rw [hc] at hle
    revert hle
    cases i <;> decide

theorem not_names_of_isNumber {field : Text} {x : Binary64} (h : IsNumber field x) (i : Input) :
    ¬ Names field i := by
  intro hi
  have hstart := startsNumber_iff.mpr h.1
  rw [not_startsNumber_of_names hi] at hstart
  exact Bool.false_ne_true hstart

/-- A frame count is no letter either. -/
theorem not_names_of_isFrames {width : FrameWidth} {field : Text} (h : IsFrames width field)
    (i : Input) : ¬ Names field i := by
  intro hi
  have hstart := not_startsNumber_of_names hi
  obtain ⟨c, rfl, -⟩ := hi
  have hdigit : c.isDigit = true := h.2.1 c (List.mem_singleton_self c)
  simp [startsNumber, hdigit] at hstart

/-! ### One field -/

namespace Draft

/-- **One field.** What reading it can do: hold one more input, or give feather a number that is
awaited. -/
theorem read_eq_ok_iff {draft after : Draft} {field : Text} :
    draft.read field = .ok after ↔
      (∃ i, Names field i ∧
        after = ⟨draft.line.addInput i, if i = .feather then .angle else .nothing⟩) ∨
      (∃ x, IsNumber field x ∧ draft.awaits = .angle ∧
        after = ⟨draft.line.withAngle x, .magnitude⟩) ∨
      ∃ x, IsNumber field x ∧ draft.awaits = .magnitude ∧
        after = ⟨draft.line.withMagnitude x, .nothing⟩ := by
  by_cases hnil : field = []
  · subst hnil
    simp [read, Names, IsNumber]
  cases hstart : startsNumber field with
  | true =>
    have hletter : ∀ i, ¬ Names field i := fun i hi =>
      Bool.false_ne_true ((not_startsNumber_of_names hi).symm.trans hstart)
    simp only [hletter, isNumber_iff_readValue hstart, false_and, exists_false, false_or]
    rw [read, if_neg hnil, if_pos hstart]
    cases draft.awaits <;> simp [Outcome.map_eq_ok_iff, eq_comm (a := after)]
  | false =>
    have hnumber : ∀ x, ¬ IsNumber field x := fun x hx =>
      Bool.false_ne_true (hstart.symm.trans (startsNumber_iff.mpr hx.1))
    simp only [hnumber, false_and, exists_false, or_false, ← readInput_eq_ok_iff]
    rw [read, if_neg hnil, if_neg (by rw [hstart]; exact Bool.false_ne_true)]
    simp [Outcome.map_eq_ok_iff, eq_comm (a := after)]

end Draft

/-! ### Whole lines -/

/-- What has been read once the frame count has. -/
def Draft.start (columns frames : Nat) : Draft := ⟨(ofFrames frames ∅).withWidth columns, .nothing⟩

/-- A line that is not blank is read by its fields alone. -/
theorem parse_of_fields {columns : Nat} {text first : Text} {rest : List Text}
    (htrim : text.trim ≠ []) (hfields : fields text = first :: rest) :
    parse columns text = (readFrames (.clamp columns) first >>= fun frames =>
      (rest.foldlM Draft.read (.start columns frames)).map Draft.line) := by
  simp only [parse, if_neg htrim, hfields]
  refine congrArg _ (funext fun frames => ?_)
  show (rest.foldlM Draft.read (.start columns frames) >>= fun draft => pure draft.line) = _
  cases rest.foldlM Draft.read (.start columns frames) <;> rfl

/-- **A whole line.** It is its frame count and then the fields after that, one by one. -/
theorem parse_eq_ok_iff {columns : Nat} {text : Text} {line : ActionLine} :
    parse columns text = .ok line ↔
      text.trim ≠ [] ∧ ∃ first rest awaits, fields text = first :: rest ∧
        IsFrames (.clamp columns) first ∧
        rest.foldlM Draft.read (.start columns (Decimal.digitsValue first)) =
          .ok ⟨line, awaits⟩ := by
  rw [parse]
  by_cases hblank : text.trim = []
  · simp [hblank]
  rw [if_neg hblank]
  cases hfields : fields text with
  | nil => simp
  | cons first rest =>
    simp only [Outcome.bind_eq_ok_iff, readFrames_eq_ok_iff, pure, Except.pure, Except.ok.injEq]
    constructor
    · rintro ⟨_, ⟨hfirst, rfl⟩, ⟨_, awaits⟩, hread, rfl⟩
      exact ⟨hblank, first, rest, awaits, rfl, hfirst, hread⟩
    · rintro ⟨-, _, _, awaits, hcons, hfirst, hread⟩
      cases hcons
      exact ⟨_, ⟨hfirst, rfl⟩, _, hread, rfl⟩

theorem parse?_eq_some_iff {columns : Nat} {text : Text} {line : ActionLine} :
    parse? columns text = some line ↔ parse columns text = .ok line :=
  Outcome.toOption_eq_some_iff

theorem exists_parse_of_isSome {columns : Nat} {text : Text}
    (h : (parse? columns text).isSome = true) : ∃ line, parse columns text = .ok line := by
  obtain ⟨line, hline⟩ := Option.isSome_iff_exists.mp h
  exact ⟨line, parse?_eq_some_iff.mp hline⟩

end ActionLine

end FrameScript
