import FrameScript.ActionLine.Layout
import FrameScript.Proofs.ActionLine.CanonicalText
import FrameScript.Proofs.InputSet

/-!
# The layout is that of the canonical text

The columns of an expressible line are those of its canonical text: the digits of the frame count
end at the boundary, each input takes two columns from there, and the last edge does not lie
beyond the text. What stands on the columns follows from one equation, `render_eq_tokensText`:
after the frame count come a comma and a letter for each button, and then feather with its payload.

## Main definitions

* `ActionLine.tokensText` — the canonical text after the frame count
* `ActionLine.letterLeft?` — the input whose letter stands left of a column

## Main results

* `ActionLine.mem_edges_iff`, `ActionLine.edgeOf?_feather` — the edges by arithmetic
* `ActionLine.Expressible.firstDigit_add_digits`, `ActionLine.Expressible.lastEdge_le` — where the
  regions of a line begin and end
* `ActionLine.Expressible.letterLeft?_edge` — left of the edges stand the letters of the members
* `ActionLine.Expressible.letterLeft?_of_lastEdge_lt` — and there is no letter beyond
-/

namespace FrameScript

namespace ActionLine

variable {line : ActionLine} {column : Nat}

/-! ### Columns -/

theorem one_le_digits (line : ActionLine) : 1 ≤ line.digits :=
  List.length_pos_iff.mpr (Decimal.wholeText_ne_nil _)

theorem one_le_firstDigit (line : ActionLine) : 1 ≤ line.firstDigit := Nat.le_add_left ..

theorem boundary_le_lastEdge (line : ActionLine) : line.boundary ≤ line.lastEdge :=
  Nat.le_add_right ..

/-- The digits of the frame count end at the boundary. -/
theorem Expressible.firstDigit_add_digits (h : line.Expressible) :
    line.firstDigit + line.digits = line.boundary := by
  have hdigits := h.digits_le
  rw [firstDigit, leadingSpaces, boundary]
  omega

theorem Expressible.tokenCount_eq (h : line.Expressible) :
    line.tokenCount = line.inputs.members.length :=
  InputSet.size_eq_length_members h.known

theorem Expressible.lt_tokenCount (h : line.Expressible) {k : Nat} {i : Input}
    (hi : line.inputs.members[k]? = some i) : k < line.tokenCount := by
  rw [h.tokenCount_eq]
  exact (List.getElem?_eq_some_iff.mp hi).1

theorem mem_edges_iff :
    column ∈ line.edges ↔ ∃ k, 1 ≤ k ∧ k ≤ line.tokenCount ∧ line.edge k = column := by
  simp only [edges, List.mem_map, List.mem_range'_1, and_assoc]
  exact exists_congr fun k => and_congr_right fun _ => and_congr_left fun _ => by omega

/-- The edge of an input is told by its place among the members. -/
theorem edgeOf?_eq_some_iff {i : Input} :
    line.edgeOf? i = some column ↔
      ∃ k, line.inputs.members[k]? = some i ∧ line.edge (k + 1) = column := by
  simp only [edgeOf?, Option.map_eq_some_iff, InputSet.position?_eq_some_iff]

/-- Feather is the last of the inputs, so its edge is the last edge. -/
theorem Expressible.edgeOf?_feather (h : line.Expressible) :
    line.edgeOf? .feather = if .feather ∈ line.inputs then some line.lastEdge else none := by
  rw [edgeOf?, InputSet.position?_feather, lastEdge, h.tokenCount_eq, InputSet.length_members]
  split <;> rfl

theorem Expressible.boundary_lt_lastEdge (h : line.Expressible)
    (hfeather : .feather ∈ line.inputs) : line.boundary < line.lastEdge := by
  have hcount : line.tokenCount = line.inputs.buttons.length + 1 := by
    rw [h.tokenCount_eq, InputSet.length_members, if_pos hfeather]
  rw [lastEdge, edge]
  omega

/-! ### The text from left to right -/

theorem Expressible.length_framesText (h : line.Expressible) :
    line.framesText.length = line.width.columns := by
  rw [framesText, List.length_leftpad]
  exact Nat.max_eq_left h.digits_le

theorem payload_eq_nil (h : .feather ∉ line.inputs) : line.payload = [] := by
  rw [payload]
  cases haim : line.aim with
  | none => rfl
  | some aim => exact absurd (line.feather_of_aim (by rw [haim]; rfl)) h

/-- What follows the frame count: a comma and a letter for each button, and then feather with its
payload. -/
def tokensText (line : ActionLine) : Text :=
  line.inputs.buttons.flatMap (fun i => [',', i.letter]) ++
    if .feather ∈ line.inputs then ',' :: Input.feather.letter :: line.payload else []

theorem render_eq_tokensText (line : ActionLine) :
    line.render = line.framesText ++ line.tokensText := by
  have hbuttons : line.inputs.buttons.flatMap line.token =
      line.inputs.buttons.flatMap fun i => [',', i.letter] := by
    rw [List.flatMap_def, List.flatMap_def]
    refine congrArg List.flatten (List.map_congr_left fun i hi => ?_)
    rw [token, if_neg (InputSet.ne_feather_of_mem_buttons hi)]
  rw [render, InputSet.members_eq, List.flatMap_append, hbuttons, tokensText]
  split
  · rw [List.flatMap_cons, List.flatMap_nil, List.append_nil]
    rfl
  · rfl

/-- Feather's comma and letter are those of another member, and what follows them is the payload. -/
theorem tokensText_eq (line : ActionLine) :
    line.tokensText = line.inputs.members.flatMap (fun i => [',', i.letter]) ++ line.payload := by
  rw [tokensText, InputSet.members_eq, List.flatMap_append, List.append_assoc]
  split
  · rw [List.flatMap_singleton]
    rfl
  · rename_i hfeather
    rw [payload_eq_nil hfeather, List.flatMap_nil]
    rfl

theorem length_flatMap_pairs (inputs : List Input) :
    (inputs.flatMap fun i => [',', i.letter]).length = 2 * inputs.length := by
  induction inputs with
  | nil => rfl
  | cons i rest ih =>
    rw [List.flatMap_cons, List.length_append, ih]
    simp only [List.length_cons, List.length_nil]
    omega

/-- The canonical text is the frame count, two characters for each input, and the payload. -/
theorem Expressible.textLength_eq (h : line.Expressible) :
    line.textLength = line.width.columns + 2 * line.tokenCount + line.payload.length := by
  rw [textLength, render_eq_tokensText, tokensText_eq, List.length_append, h.length_framesText,
    List.length_append, length_flatMap_pairs, h.tokenCount_eq, Nat.add_assoc]

theorem Expressible.lastEdge_le (h : line.Expressible) : line.lastEdge ≤ line.textLength + 1 := by
  rw [h.textLength_eq, lastEdge, edge, boundary]
  omega

/-! ### Letters -/

/-- The input whose letter stands left of a column. -/
def letterLeft? (line : ActionLine) (column : Nat) : Option Input :=
  (line.render[column - 2]?).bind Input.ofLetter?

theorem getElem?_flatMap_pairs (inputs : List Input) (k : Nat) :
    (inputs.flatMap fun i => [',', i.letter])[2 * k]? = inputs[k]?.map (fun _ => ',') ∧
      (inputs.flatMap fun i => [',', i.letter])[2 * k + 1]? = inputs[k]?.map Input.letter := by
  induction inputs generalizing k with
  | nil => exact ⟨rfl, rfl⟩
  | cons i rest ih =>
    cases k with
    | zero => exact ⟨rfl, rfl⟩
    | succ k => exact ih k

/-- After the frame count, every second character is a comma, and behind it stands the letter of
the next member. -/
theorem getElem?_tokensText {k : Nat} {i : Input} (hi : line.inputs.members[k]? = some i) :
    line.tokensText[2 * k]? = some ',' ∧ line.tokensText[2 * k + 1]? = some i.letter := by
  obtain ⟨hlt, -⟩ := List.getElem?_eq_some_iff.mp hi
  have hpairs := getElem?_flatMap_pairs line.inputs.members k
  rw [hi] at hpairs
  have hlength := length_flatMap_pairs line.inputs.members
  rw [tokensText_eq, List.getElem?_append_left (by omega), List.getElem?_append_left (by omega)]
  exact hpairs

/-- **Left of each edge** stands the letter of its input. -/
theorem Expressible.letterLeft?_edge (h : line.Expressible) {k : Nat} {i : Input}
    (hi : line.inputs.members[k]? = some i) : line.letterLeft? (line.edge (k + 1)) = some i := by
  have hplace : line.edge (k + 1) - 2 = line.framesText.length + (2 * k + 1) := by
    rw [h.length_framesText, edge, boundary]
    omega
  rw [letterLeft?, hplace, render_eq_tokensText, List.getElem?_append_right (Nat.le_add_right ..),
    Nat.add_sub_cancel_left, (getElem?_tokensText hi).2]
  exact Input.ofLetter?_letter i

theorem ofLetter?_eq_none_of_le_nine {c : Char} (h : c ≤ '9') : Input.ofLetter? c = none := by
  cases hletter : Input.ofLetter? c with
  | none => rfl
  | some i =>
    have hupper := Input.ofLetter?_eq_some_iff.mp hletter
    rw [toUpper_of_le_nine h] at hupper
    rw [hupper] at h
    revert h
    cases i <;> decide

/-- Commas, digits, signs and points all come before the letters. -/
theorem Expressible.le_nine_of_mem_payload (h : line.Expressible) {c : Char}
    (hc : c ∈ line.payload) : c ≤ '9' := by
  rw [payload_eq, List.mem_flatMap] at hc
  obtain ⟨field, hfield, hc⟩ := hc
  obtain ⟨x, hx, rfl⟩ := numbers_eq h hfield
  rcases List.mem_cons.mp hc with rfl | hc
  · decide
  rcases Binary64.mem_toText hx hc with hdigit | rfl | rfl
  · exact of_decide_eq_true (Bool.and_eq_true_iff.mp hdigit).2
  all_goals decide

/-- **Beyond the last edge** stands no letter. -/
theorem Expressible.letterLeft?_of_lastEdge_lt (h : line.Expressible)
    (hcolumn : line.lastEdge < column) : line.letterLeft? column = none := by
  rw [lastEdge, edge, boundary, h.tokenCount_eq, InputSet.length_members] at hcolumn
  rw [letterLeft?, Option.bind_eq_none_iff]
  intro c hc
  rw [render_eq_tokensText, List.getElem?_append_right (by rw [h.length_framesText]; omega),
    h.length_framesText, tokensText,
    List.getElem?_append_right (by rw [length_flatMap_pairs]; omega), length_flatMap_pairs] at hc
  split at hc
  · rename_i hfeather
    rw [if_pos hfeather] at hcolumn
    rw [show column - 2 - line.width.columns - 2 * line.inputs.buttons.length =
      column - 4 - line.width.columns - 2 * line.inputs.buttons.length + 2 by omega] at hc
    exact ofLetter?_eq_none_of_le_nine (h.le_nine_of_mem_payload (List.mem_of_getElem? hc))
  · cases hc

end ActionLine

end FrameScript
