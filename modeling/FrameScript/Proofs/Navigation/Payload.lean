import FrameScript.Navigation.Payload

/-!
# Steps within angle and magnitude go on

The edges of a field enclose the column where they are asked for, and a step by word to an edge is
replaced by a step over it where the caret already stands there. So every step leads on, on either
side of the end of the text. From beyond the end a step by word leads into the last field of the
text, wherever that stands.

## Main definitions

* `Payload.lastField`, `Payload.lastFieldStart` — what stands after the last comma, and where
* `Payload.lastStop` — the first point of the last field, or else its start

## Main results

* `Payload.lt_step`, `Payload.step_lt` — steps to the right lead right, steps to the left lead left
* `Payload.step_wordLeft_of_beyond` — a step by word from beyond the text leads to its last stop
* `Payload.lt_lastFieldStart_append` — the last field begins after every comma
-/

namespace FrameScript

namespace Payload

variable {raw : Text} {column : Nat} {m : Movement}

theorem leftEdge_le (raw : Text) (hcolumn : 1 ≤ column) : leftEdge raw column ≤ column := by
  have hdrop := (List.dropWhile_sublist (· ≠ ',') (l := (raw.take (column - 1)).reverse)).length_le
  rw [List.length_reverse, List.length_take] at hdrop
  rw [leftEdge]
  omega

theorem le_rightEdge (raw : Text) (column : Nat) : column ≤ rightEdge raw column :=
  Nat.le_add_right ..

/-- **A step to the right** leads right. -/
theorem lt_step (hm : m = .charRight ∨ m = .wordRight) : column < step raw column m := by
  rcases hm with rfl | rfl
  · exact Nat.lt_add_one column
  have hedge := le_rightEdge raw column
  simp only [step]
  split
  · exact Nat.lt_add_one column
  split
  · split <;> omega
  · omega

/-- **A step to the left** leads left. -/
theorem step_lt (hcolumn : 1 ≤ column) (hm : m = .charLeft ∨ m = .wordLeft) :
    step raw column m < column := by
  rcases hm with rfl | rfl
  · exact Nat.sub_lt hcolumn Nat.one_pos
  have hedge := leftEdge_le raw hcolumn
  simp only [step]
  split
  · omega
  split
  · split <;> omega
  · omega

/-! ### From beyond the text -/

/-- What stands after the last comma. -/
def lastField (raw : Text) : Text := (raw.reverse.takeWhile (· ≠ ',')).reverse

/-- The column where the last field begins. -/
def lastFieldStart (raw : Text) : Nat := raw.length - (lastField raw).length + 1

/-- The column of the first point of the last field, or else the one where the field begins. -/
def lastStop (raw : Text) : Nat :=
  lastFieldStart raw + ((lastField raw).findIdx? (· = '.')).getD 0

theorem length_lastField_le (raw : Text) : (lastField raw).length ≤ raw.length := by
  rw [lastField, List.length_reverse, ← @List.length_reverse _ raw]
  exact (List.takeWhile_sublist _).length_le

theorem leftEdge_of_beyond (h : raw.length < column) : leftEdge raw column = lastFieldStart raw := by
  have hsplit := congrArg List.length
    (List.takeWhile_append_dropWhile (p := (· ≠ ',')) (l := raw.reverse))
  rw [List.length_append, List.length_reverse] at hsplit
  rw [leftEdge, List.take_of_length_le (Nat.le_sub_one_of_lt h), lastFieldStart, lastField,
    List.length_reverse]
  omega

theorem rightEdge_of_beyond (h : raw.length < column) : rightEdge raw column = column := by
  rw [rightEdge, List.drop_of_length_le (Nat.le_sub_one_of_lt h)]
  rfl

theorem drop_lastFieldStart (raw : Text) : raw.drop (lastFieldStart raw - 1) = lastField raw := by
  obtain ⟨before, hraw⟩ : ∃ before, before ++ lastField raw = raw := by
    refine ⟨(raw.reverse.dropWhile (· ≠ ',')).reverse, ?_⟩
    rw [lastField, ← List.reverse_append, List.takeWhile_append_dropWhile, List.reverse_reverse]
  have hlength := congrArg List.length hraw
  rw [List.length_append] at hlength
  have hdrop : (before ++ lastField raw).drop (lastFieldStart raw - 1) = lastField raw :=
    List.drop_left' (by rw [lastFieldStart]; omega)
  rwa [hraw] at hdrop

theorem point?_of_beyond (h : raw.length < column) :
    point? raw column = ((lastField raw).findIdx? (· = '.')).map (lastFieldStart raw + ·) := by
  have hfield : (lastField raw).length ≤ column - lastFieldStart raw := by
    have := length_lastField_le raw
    rw [lastFieldStart]
    omega
  simp only [point?, leftEdge_of_beyond h, rightEdge_of_beyond h, drop_lastFieldStart,
    List.take_of_length_le hfield]

/-- **From beyond the text** a step by word leads to its last stop. -/
theorem step_wordLeft_of_beyond (h : raw.length < column) (hstart : lastFieldStart raw < column) :
    step raw column .wordLeft = lastStop raw := by
  simp only [step, leftEdge_of_beyond h, if_neg (Nat.ne_of_gt hstart), point?_of_beyond h, lastStop]
  cases hfind : (lastField raw).findIdx? (· = '.') with
  | none => rfl
  | some index =>
    have hindex := (List.findIdx?_eq_some_iff_getElem.mp hfind).1
    have hlast := length_lastField_le raw
    have hlt : lastFieldStart raw + index < column := by
      rw [lastFieldStart]
      omega
    exact if_pos hlt

/-- The last field begins after every comma. -/
theorem lt_lastFieldStart_append (before after : Text) :
    before.length + 1 < lastFieldStart (before ++ ',' :: after) := by
  have hfield : (lastField (before ++ ',' :: after)).length ≤ after.length := by
    rw [lastField, List.length_reverse, List.reverse_append, List.reverse_cons, List.append_assoc,
      List.takeWhile_append]
    split
    · refine Nat.le_of_eq ?_
      rw [List.singleton_append, List.takeWhile_cons_of_neg (by decide), List.append_nil,
        List.length_reverse]
    · rw [← @List.length_reverse _ after]
      exact (List.takeWhile_sublist _).length_le
  rw [lastFieldStart, List.length_append, List.length_cons]
  omega

end Payload

end FrameScript
