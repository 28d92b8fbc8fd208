import FrameScript.Navigation.Region
import FrameScript.Proofs.ActionLine.Slot

/-!
# The regions of slots

The region of a slot is told by a letter of the canonical text, and the letters stand at the edges
only. So the region of every slot is known from where the slot lies: left of the boundary the
digits, at the edges the inputs, at the last of them feather if it is held, and beyond it the
payload.

## Main results

* `ActionLine.mem_adjacent_iff` — the inputs that a movement looks at, by places of the text
* `ActionLine.adjacent_charLeft` — a step to the left looks at the letter left of the column
* `ActionLine.Expressible.region_eq` — the region of a slot by arithmetic
-/

namespace FrameScript

namespace ActionLine

variable {line : ActionLine} {column : Nat}

/-! ### Letters next to a column -/

theorem mem_adjacent_iff {m : Movement} {i : Input} :
    i ∈ line.adjacent column m ↔ ∃ index c, line.render[index]? = some c ∧
      line.looksAt column m (index + 2) = true ∧ Input.ofLetter? c = some i := by
  rw [adjacent, InputSet.mem_ofList, List.mem_filterMap]
  constructor
  · rintro ⟨⟨c, index⟩, hc, hi⟩
    dsimp only at hi
    split at hi
    · rename_i hlooks
      exact ⟨index, c, List.mem_zipIdx_iff_getElem?.mp hc, hlooks, hi⟩
    · cases hi
  · rintro ⟨index, c, hc, hlooks, hi⟩
    refine ⟨(c, index), List.mem_zipIdx_iff_getElem?.mpr hc, ?_⟩
    dsimp only
    rw [if_pos hlooks, hi]

/-- A step to the left looks at the letter left of the column and at no other. -/
theorem mem_adjacent_charLeft_iff (hcolumn : line.boundary < column) {i : Input} :
    i ∈ line.adjacent column .charLeft ↔ line.letterLeft? column = some i := by
  have htwo : 2 ≤ column := Nat.le_trans (Nat.succ_le_succ (Nat.le_add_left ..)) hcolumn
  rw [mem_adjacent_iff, letterLeft?, Option.bind_eq_some_iff]
  constructor
  · rintro ⟨index, c, hc, hlooks, hi⟩
    have hindex : index + 2 = column := of_decide_eq_true (Bool.and_eq_true_iff.mp hlooks).2
    rw [show column - 2 = index by omega]
    exact ⟨c, hc, hi⟩
  · rintro ⟨c, hc, hi⟩
    refine ⟨column - 2, c, hc, ?_, hi⟩
    rw [looksAt, decide_eq_true hcolumn, Nat.sub_add_cancel htwo, decide_eq_true rfl]
    rfl

theorem adjacent_charLeft (hcolumn : line.boundary < column) :
    line.adjacent column .charLeft = (line.letterLeft? column).elim ∅ .single := by
  have hknown : ((line.letterLeft? column).elim ∅ InputSet.single).isKnown = true := by
    cases line.letterLeft? column with
    | none => exact InputSet.isKnown_empty
    | some i => exact InputSet.isKnown_single i
  refine InputSet.eq_of_has_eq (InputSet.isKnown_ofList _) hknown fun i =>
    Bool.eq_iff_iff.mpr ?_
  rw [← InputSet.mem_iff, mem_adjacent_charLeft_iff hcolumn]
  cases line.letterLeft? column with
  | none => simp
  | some j => simp

/-! ### Regions -/

/-- Beyond the boundary the region is told by the letter left of the column. -/
theorem region_of_boundary_lt (hcolumn : line.boundary < column) :
    line.region column =
      match line.letterLeft? column with
      | none => .payload
      | some i => if i = .feather then .feather else .token := by
  rw [region, if_neg (by omega), if_neg (by omega), adjacent_charLeft hcolumn]
  cases line.letterLeft? column with
  | none => rfl
  | some i =>
    simp only [Option.elim_some, InputSet.isEmpty_single, Bool.false_eq_true, if_false,
      InputSet.single_inj]

/-- At an edge stands feather if it is held and the edge is the last, and else another input. -/
theorem Expressible.region_edge (h : line.Expressible) {k : Nat} (hk : k < line.tokenCount) :
    line.region (line.edge (k + 1)) =
      if .feather ∈ line.inputs ∧ k + 1 = line.tokenCount then .feather else .token := by
  rw [h.tokenCount_eq] at hk ⊢
  have hi := List.getElem?_eq_getElem hk
  rw [region_of_boundary_lt (by rw [edge]; omega), h.letterLeft?_edge hi]
  dsimp only
  have hfeather : line.inputs.members[k] = .feather ↔
      .feather ∈ line.inputs ∧ k + 1 = line.inputs.members.length := by
    rw [← Option.some_inj, ← hi, InputSet.getElem?_members_eq_feather_iff,
      InputSet.length_members]
    refine and_congr_right fun hin => ?_
    rw [if_pos hin, Nat.add_right_cancel_iff]
  simp only [hfeather]

theorem Expressible.region_of_lastEdge_lt (h : line.Expressible)
    (hcolumn : line.lastEdge < column) : line.region column = .payload := by
  rw [region_of_boundary_lt (Nat.lt_of_le_of_lt (boundary_le_lastEdge line) hcolumn),
    h.letterLeft?_of_lastEdge_lt hcolumn]

/-- **The region of a slot** by arithmetic. -/
theorem Expressible.region_eq (h : line.Expressible) (hslot : line.IsSlot column) :
    line.region column =
      if column < line.boundary then .digits
      else if column = line.boundary then .boundary
      else if line.lastEdge < column then .payload
      else if .feather ∈ line.inputs ∧ column = line.lastEdge then .feather
      else .token := by
  split
  · rename_i hdigits
    rw [region, if_pos hdigits]
  split
  · rename_i hdigits hboundary
    rw [region, if_neg hdigits, if_pos hboundary]
  split
  · rename_i hlast
    exact h.region_of_lastEdge_lt hlast
  rename_i hdigits hboundary hlast
  obtain ⟨k, hk, rfl⟩ : ∃ k, k < line.tokenCount ∧ line.edge (k + 1) = column := by
    have hedges := lastEdge_eq line
    have heven : (column - line.boundary) % 2 = 0 := by
      rcases h.isSlot_iff.mp hslot with hslot | hslot | ⟨-, hslot⟩ <;> omega
    refine ⟨(column - line.boundary) / 2 - 1, by omega, ?_⟩
    rw [edge]
    omega
  have hedge : line.edge (k + 1) = line.lastEdge ↔ k + 1 = line.tokenCount := by
    rw [lastEdge, edge, edge]
    omega
  simp only [h.region_edge hk, hedge]

/-- The regions from left to right, and which slots lie in them. -/
theorem Expressible.region_cases (h : line.Expressible) (hslot : line.IsSlot column) :
    (line.region column = .digits ∧ column < line.boundary) ∨
    (line.region column = .boundary ∧ column = line.boundary) ∨
    (line.region column = .token ∧ line.boundary < column ∧ column ≤ line.lastEdge ∧
      ¬ (.feather ∈ line.inputs ∧ line.lastEdge ≤ column)) ∨
    (line.region column = .feather ∧ .feather ∈ line.inputs ∧ line.boundary < column ∧
      column = line.lastEdge) ∨
    line.region column = .payload ∧ .feather ∈ line.inputs ∧ line.lastEdge < column := by
  have hlast := boundary_le_lastEdge line
  have hregion := h.region_eq hslot
  split at hregion
  · exact Or.inl ⟨hregion, by assumption⟩
  split at hregion
  · exact Or.inr (Or.inl ⟨hregion, by assumption⟩)
  split at hregion
  · refine Or.inr (Or.inr (Or.inr (Or.inr ⟨hregion, ?_, by assumption⟩)))
    rcases h.isSlot_iff.mp hslot with hdigits | htoken | ⟨hfeather, -⟩
    · omega
    · omega
    · exact hfeather
  split at hregion
  · rename_i hfeather
    exact Or.inr (Or.inr (Or.inr (Or.inl ⟨hregion, hfeather.1, by omega, hfeather.2⟩)))
  · rename_i hfeather
    refine Or.inr (Or.inr (Or.inl ⟨hregion, by omega, by omega, ?_⟩))
    rintro ⟨hin, hle⟩
    exact hfeather ⟨hin, by omega⟩

end ActionLine

end FrameScript
