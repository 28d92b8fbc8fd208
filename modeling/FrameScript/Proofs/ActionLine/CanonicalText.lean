import FrameScript.ActionLine.Printer
import FrameScript.Proofs.ActionLine.Expressible
import FrameScript.Proofs.Number.ReadBack
import FrameScript.Proofs.Text.Trim

/-!
# The fields of the canonical text

The canonical text is written input by input, each with the comma before it, and read field by
field. Both are the same list of fields: the frame count, then for each input its letter, and
after the letter of feather angle and magnitude. No such field holds a comma or a blank, as long
as angle and magnitude are finite, so cutting and trimming give the fields back as written.

## Main definitions

* `ActionLine.numbers` — angle and magnitude as fields
* `ActionLine.tokenFields` — the fields of an input
* `ActionLine.canonicalFields` — the fields of the canonical text

## Main results

* `ActionLine.render_eq` — the canonical text is leading spaces and the fields between commas
* `ActionLine.fields_render` — and these are the fields that are read
-/

namespace FrameScript

namespace Text

/-- The first of several fields stands alone, and each of the others after a comma. -/
theorem intercalate_comma (field : Text) (rest : List Text) :
    [','].intercalate (field :: rest) = field ++ rest.flatMap (',' :: ·) := by
  induction rest generalizing field with
  | nil => rw [List.intercalate_singleton, List.flatMap_nil, List.append_nil]
  | cons next rest ih =>
    rw [List.intercalate_cons_cons, ih, List.flatMap_cons, List.append_assoc,
      List.singleton_append, List.cons_append]

end Text

namespace ActionLine

/-- Angle and magnitude as fields. -/
def numbers (line : ActionLine) : List Text :=
  match line.aim with
  | none => []
  | some ⟨angle, none⟩ => [angle.toText]
  | some ⟨angle, some magnitude⟩ => [angle.toText, magnitude.toText]

/-- The fields of an input: its letter, and what follows the letter of feather. -/
def tokenFields (line : ActionLine) (i : Input) : List Text :=
  [i.letter] :: if i = .feather then line.numbers else []

/-- The fields of the canonical text, without the spaces before the frame count. -/
def canonicalFields (line : ActionLine) : List Text :=
  Decimal.wholeText line.frames :: line.inputs.members.flatMap line.tokenFields

variable {line : ActionLine}

/-! ### Text and fields -/

theorem payload_eq (line : ActionLine) : line.payload = line.numbers.flatMap (',' :: ·) := by
  rw [payload, numbers]
  rcases line.aim with _ | ⟨angle, _ | magnitude⟩
  · rfl
  · simp
  · simp

theorem token_eq (line : ActionLine) (i : Input) :
    line.token i = (line.tokenFields i).flatMap (',' :: ·) := by
  rw [token, tokenFields, List.flatMap_cons, payload_eq]
  split <;> rfl

theorem framesText_eq (line : ActionLine) :
    line.framesText = List.replicate line.leadingSpaces ' ' ++ Decimal.wholeText line.frames := rfl

/-- **The canonical text** is leading spaces and its fields between commas. -/
theorem render_eq (line : ActionLine) :
    line.render =
      List.replicate line.leadingSpaces ' ' ++ [','].intercalate line.canonicalFields := by
  rw [render, framesText_eq, canonicalFields, Text.intercalate_comma, List.append_assoc,
    List.flatMap_assoc, funext (token_eq line)]

/-! ### What the fields hold -/

theorem numbers_eq (h : line.Expressible) {field : Text} (hfield : field ∈ line.numbers) :
    ∃ x : Binary64, x.isFinite = true ∧ field = x.toText := by
  have hangle := h.angle_finite
  have hmagnitude := h.magnitude_finite
  rw [angle?] at hangle
  rw [magnitude?] at hmagnitude
  rw [numbers] at hfield
  rcases haim : line.aim with _ | ⟨angle, _ | magnitude⟩ <;>
    simp only [haim, Option.map_some, Option.bind_some] at hfield hangle hmagnitude
  · cases hfield
  · exact ⟨angle, hangle angle rfl, List.mem_singleton.mp hfield⟩
  · rcases List.mem_cons.mp hfield with rfl | hfield
    · exact ⟨angle, hangle angle rfl, rfl⟩
    · exact ⟨magnitude, hmagnitude magnitude rfl, List.mem_singleton.mp hfield⟩

/-- Digits, letters, signs and points: the characters of the canonical text between its commas. -/
theorem mem_canonicalFields (h : line.Expressible) {field : Text}
    (hfield : field ∈ line.canonicalFields) {c : Char} (hc : c ∈ field) :
    c.isDigit = true ∨ (∃ i : Input, c = i.letter) ∨ c = '-' ∨ c = '.' := by
  rcases List.mem_cons.mp hfield with rfl | hfield
  · exact Or.inl (Decimal.isDigit_of_mem_wholeText hc)
  obtain ⟨i, -, hfield⟩ := List.mem_flatMap.mp hfield
  rcases List.mem_cons.mp hfield with rfl | hfield
  · exact Or.inr (Or.inl ⟨i, List.mem_singleton.mp hc⟩)
  split at hfield
  · obtain ⟨x, hx, rfl⟩ := numbers_eq h hfield
    rcases Binary64.mem_toText hx hc with hdigit | hsign
    · exact Or.inl hdigit
    · exact Or.inr (Or.inr hsign)
  · cases hfield

theorem comma_not_mem_canonicalFields (h : line.Expressible) {field : Text}
    (hfield : field ∈ line.canonicalFields) : ',' ∉ field := by
  intro hc
  rcases mem_canonicalFields h hfield hc with hdigit | ⟨i, hi⟩ | hc | hc
  · exact absurd hdigit (by decide)
  · revert hi
    cases i <;> decide
  all_goals exact absurd hc (by decide)

theorem not_blank_of_mem_canonicalFields (h : line.Expressible) {field : Text}
    (hfield : field ∈ line.canonicalFields) {c : Char} (hc : c ∈ field) :
    Text.isBlank c = false := by
  rcases mem_canonicalFields h hfield hc with hdigit | ⟨i, rfl⟩ | rfl | rfl
  · exact Text.not_blank_of_isDigit hdigit
  · cases i <;> decide
  all_goals decide

/-! ### Cutting the canonical text -/

theorem trim_render (h : line.Expressible) :
    line.render.trim = [','].intercalate line.canonicalFields := by
  rw [render_eq, Text.trim_spaces_append]
  intro c hc
  rw [canonicalFields, Text.intercalate_comma, List.mem_append, List.mem_flatMap] at hc
  rcases hc with hc | ⟨field, hfield, hc⟩
  · exact not_blank_of_mem_canonicalFields h (List.mem_cons_self ..) hc
  · rcases List.mem_cons.mp hc with rfl | hc
    · decide
    · exact not_blank_of_mem_canonicalFields h (List.mem_cons_of_mem _ hfield) hc

theorem trim_render_ne_nil (h : line.Expressible) : line.render.trim ≠ [] := by
  rw [trim_render h, canonicalFields, Text.intercalate_comma]
  exact List.append_ne_nil_of_left_ne_nil (Decimal.wholeText_ne_nil _) _

/-- **Cutting gives the fields back** as they were written. -/
theorem fields_render (h : line.Expressible) : fields line.render = line.canonicalFields := by
  rw [fields, trim_render h, List.splitOn_intercalate ','
    (fun field hfield => comma_not_mem_canonicalFields h hfield) (List.cons_ne_nil _ _)]
  calc line.canonicalFields.map Text.trim
      = line.canonicalFields.map id := List.map_congr_left fun field hfield =>
        Text.trim_of_not_blank fun c hc => not_blank_of_mem_canonicalFields h hfield hc
    _ = line.canonicalFields := List.map_id _

end ActionLine

end FrameScript
