import FrameScript.Proofs.ActionLine.Layout
import Mathlib.Data.Nat.Log

/-!
# The printed line, column by column

A line is printed piece by piece, and laid out without a text: the layout counts digits and flags.
Where the caret goes is decided by the layout alone, so the two have to agree about every column.
They do, as soon as the frame count fits its field and no flag is set that means nothing. The aim
may be anything, also a number that no line could be read with.

## Main definitions

* `ActionLine.LayoutDescribes` — the layout of a line says what stands in a text

## Main results

* `digitCount_eq_log` — the number of digits by logarithm
* `ActionLine.render_eq_pieces` — the pieces of a printed line
* `ActionLine.utf8Size_of_mem_render` — all of its characters are single bytes
* `ActionLine.layout_describes_render` — the layout says what stands in the printed line
-/

namespace FrameScript

/-- A number has one digit more than its logarithm says, also zero. -/
theorem digitCount_eq_log (n : Nat) : digitCount n = Nat.log 10 n + 1 := by
  have hle : ∀ k, digitCount n ≤ k + 1 ↔ Nat.log 10 n ≤ k := by
    intro k
    rw [digitCount, Decimal.wholeText, Nat.length_toDigits_le_iff (by decide) (Nat.succ_pos k)]
    by_cases hzero : n = 0
    · rw [hzero, Nat.log_zero_right]
      exact iff_of_true (Nat.pow_pos (by decide)) (Nat.zero_le k)
    · rw [← Nat.log_lt_iff_lt_pow (by decide) hzero, Nat.lt_succ_iff]
  refine Nat.le_antisymm ((hle _).mpr (Nat.le_refl _)) ?_
  have hpos : 1 ≤ digitCount n := List.length_pos_iff.mpr (Decimal.wholeText_ne_nil n)
  have := (hle (digitCount n - 1)).mp (by omega)
  omega

namespace Decimal

/-- Digits are single bytes. -/
theorem utf8Size_of_isDigit {c : Char} (h : c.isDigit = true) : c.utf8Size = 1 := by
  have hle : c ≤ '9' := of_decide_eq_true (Bool.and_eq_true_iff.mp h).2
  exact Char.utf8Size_eq_one_iff.mpr (Nat.le_trans hle (by decide))

end Decimal

/-- So are all characters of a number, also of one that is not finite. -/
theorem Binary64.utf8Size_of_mem_toText {x : Binary64} {c : Char} (hc : c ∈ x.toText) :
    c.utf8Size = 1 := by
  cases x with
  | nan =>
    have hall : Binary64.nan.toText.all (·.utf8Size = 1) = true := by decide
    exact of_decide_eq_true (List.all_eq_true.mp hall c hc)
  | infinite negative =>
    have hall : (Binary64.infinite negative).toText.all (·.utf8Size = 1) = true := by
      cases negative <;> decide
    exact of_decide_eq_true (List.all_eq_true.mp hall c hc)
  | finite negative units h =>
    rcases Decimal.mem_toText hc with hdigit | rfl | rfl
    · exact Decimal.utf8Size_of_isDigit hdigit
    · rfl
    · rfl

namespace ActionLine

variable {line : ActionLine}

/-! ### The pieces of a printed line -/

/-- **The pieces** of a printed line: spaces, the digits of the frame count, a comma and a letter
for each member, and the payload. -/
theorem render_eq_pieces (line : ActionLine) :
    line.render = (List.replicate line.leadingSpaces ' ' ++ Decimal.wholeText line.frames ++
      line.inputs.members.flatMap fun i => [',', i.letter]) ++ line.payload := by
  rw [render_eq_tokensText, tokensText_eq, framesText_eq, List.append_assoc, List.append_assoc,
    List.append_assoc]

/-- The payload is a comma and a number for the angle, and the same for the magnitude. -/
theorem payload_eq_flatMap (line : ActionLine) :
    line.payload =
      (line.angle?.toList ++ line.magnitude?.toList).flatMap fun x => ',' :: x.toText := by
  rw [payload, angle?, magnitude?]
  rcases line.aim with _ | ⟨angle, _ | magnitude⟩
  · rfl
  · simp
  · simp

/-- **All characters** of a printed line are single bytes, so its length can be counted in
either. -/
theorem utf8Size_of_mem_render {c : Char} (hc : c ∈ line.render) : c.utf8Size = 1 := by
  rw [render_eq_pieces, payload_eq_flatMap, List.mem_append, List.mem_append, List.mem_append,
    List.mem_flatMap, List.mem_flatMap] at hc
  rcases hc with ((hspace | hdigit) | ⟨i, -, hletter⟩) | ⟨x, -, hnumber⟩
  · rw [List.eq_of_mem_replicate hspace]
    rfl
  · exact Decimal.utf8Size_of_isDigit (Decimal.isDigit_of_mem_wholeText hdigit)
  · have hall : [',', i.letter].all (·.utf8Size = 1) = true := by cases i <;> decide
    exact of_decide_eq_true (List.all_eq_true.mp hall c hletter)
  · rcases List.mem_cons.mp hnumber with rfl | hnumber
    · rfl
    · exact Binary64.utf8Size_of_mem_toText hnumber

/-! ### The edges of the members -/

/-- The edges in order. -/
theorem getElem?_edges {k : Nat} (hk : k < line.tokenCount) :
    line.edges[k]? = some (line.edge (k + 1)) := by
  rw [edges, List.getElem?_map, List.getElem?_range' hk, Nat.one_mul, Nat.add_comm 1 k]
  rfl

theorem edgeOf?_of_getElem? {k : Nat} {i : Input} (hi : line.inputs.members[k]? = some i) :
    line.edgeOf? i = some (line.edge (k + 1)) :=
  edgeOf?_eq_some_iff.mpr ⟨k, hi, rfl⟩

/-! ### The layout -/

/-- The layout of a line describes a text: it says at which column each part of it stands. The
character at a column is the one whose index is smaller by one. -/
structure LayoutDescribes (line : ActionLine) (text : Text) : Prop where
  /-- The field of the frame count is filled by spaces and digits. -/
  leadingSpaces_add_digits : line.leadingSpaces + line.digits = line.width.columns
  /-- There are as many digits as the decimal notation of the frame count has. -/
  digits_eq : line.digits = Nat.log 10 line.frames + 1 ∧
    line.digits = (Decimal.wholeText line.frames).length
  /-- Nothing stands before the last edge but spaces, these digits, and a comma and a letter for
  each member. -/
  take_lastEdge : text.take (line.lastEdge - 1) =
    List.replicate line.leadingSpaces ' ' ++ Decimal.wholeText line.frames ++
      line.inputs.members.flatMap fun i => [',', i.letter]
  /-- The edges belong to the members, one each and in the same order, and left of each edge stand
  comma and letter. -/
  length_edges : line.edges.length = line.inputs.members.length
  token : ∀ (k : Nat) (i : Input), line.inputs.members[k]? = some i → ∃ column,
    line.edgeOf? i = some column ∧ line.edges[k]? = some column ∧
      text[column - 2 - 1]? = some ',' ∧ text[column - 1 - 1]? = some i.letter
  /-- No other input has an edge. -/
  edgeOf?_eq_none_iff : ∀ i, line.edgeOf? i = none ↔ i ∉ line.inputs
  /-- What follows the last edge is angle and magnitude, as far as they are given. -/
  drop_lastEdge : text.drop (line.lastEdge - 1) =
    (line.angle?.toList ++ line.magnitude?.toList).flatMap fun x => ',' :: x.toText
  /-- The length of the text, in characters and in bytes. -/
  length_eq : text.length = line.textLength ∧
    line.textLength = line.lastEdge - 1 + line.payload.length
  utf8Size_eq : ∀ c ∈ text, c.utf8Size = 1

/-- **The layout describes the printed line**, if the frame count fits its field and no flag is set
that means nothing. -/
theorem layout_describes_render (hdigits : line.digits ≤ line.width.columns)
    (hknown : line.inputs.isKnown = true) : line.LayoutDescribes line.render := by
  have hfield : line.leadingSpaces + line.digits = line.width.columns := Nat.sub_add_cancel hdigits
  have hcount : line.tokenCount = line.inputs.members.length :=
    InputSet.size_eq_length_members hknown
  have hframes : line.framesText.length = line.width.columns := by
    rw [framesText, List.length_leftpad]
    exact Nat.max_eq_left hdigits
  -- the last edge is where the payload begins
  have hlength : (List.replicate line.leadingSpaces ' ' ++ Decimal.wholeText line.frames ++
      line.inputs.members.flatMap fun i => [',', i.letter]).length = line.lastEdge - 1 := by
    rw [← framesText_eq, List.length_append, hframes, length_flatMap_pairs, ← hcount, lastEdge,
      edge, boundary]
    omega
  refine ⟨hfield, ⟨digitCount_eq_log _, rfl⟩, ?_, ?_, ?_, ?_, ?_, ⟨rfl, ?_⟩, ?_⟩
  · rw [render_eq_pieces]
    exact List.take_left' hlength
  · rw [edges, List.length_map, List.length_range', hcount]
  · intro k i hi
    obtain ⟨hlt, -⟩ := List.getElem?_eq_some_iff.mp hi
    have hcomma : line.edge (k + 1) - 2 - 1 = line.framesText.length + 2 * k := by
      rw [hframes, edge, boundary]
      omega
    have hletter : line.edge (k + 1) - 1 - 1 = line.framesText.length + (2 * k + 1) := by
      rw [hframes, edge, boundary]
      omega
    refine ⟨line.edge (k + 1), edgeOf?_of_getElem? hi, getElem?_edges (by omega), ?_, ?_⟩
    · rw [hcomma, render_eq_tokensText, List.getElem?_append_right (Nat.le_add_right ..),
        Nat.add_sub_cancel_left]
      exact (getElem?_tokensText hi).1
    · rw [hletter, render_eq_tokensText, List.getElem?_append_right (Nat.le_add_right ..),
        Nat.add_sub_cancel_left]
      exact (getElem?_tokensText hi).2
  · intro i
    rw [edgeOf?, Option.map_eq_none_iff, InputSet.position?_eq_none_iff]
  · rw [render_eq_pieces, ← payload_eq_flatMap]
    exact List.drop_left' hlength
  · rw [textLength, render_eq_pieces, List.length_append, hlength]
  · intro c hc
    exact utf8Size_of_mem_render hc

/-- A line that aims at no number at all, infinitely far: it could not be read again, but its layout
describes it. -/
theorem layout_describes_unreadable_aim :
    ∃ line : ActionLine, line.render = "  7,J,F,NaN,-inf".toList ∧
      (line.digits ≤ line.width.columns ∧ line.inputs.isKnown = true) ∧
      line.LayoutDescribes "  7,J,F,NaN,-inf".toList := by
  have hrender : (((ofFrames 7 (.single .jump)).withAim ⟨.nan, some (.infinite true)⟩).withWidth
      3).render = "  7,J,F,NaN,-inf".toList := by decide +kernel
  have hfits : (((ofFrames 7 (.single .jump)).withAim ⟨.nan, some (.infinite true)⟩).withWidth
        3).digits ≤ 3 ∧
      (((ofFrames 7 (.single .jump)).withAim ⟨.nan, some (.infinite true)⟩).withWidth
        3).inputs.isKnown = true := by decide +kernel
  refine ⟨_, hrender, hfits, ?_⟩
  rw [← hrender]
  exact layout_describes_render hfits.1 hfits.2

end ActionLine

end FrameScript
