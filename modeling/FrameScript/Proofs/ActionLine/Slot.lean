import FrameScript.Proofs.ActionLine.NearestSlot

/-!
# Slots and snapping by arithmetic

On an expressible line the edge of feather is the last edge. Which columns are slots, and where
snapping leads, is then arithmetic on four columns: first digit, boundary, last edge and the column
itself.

## Main results

* `ActionLine.Expressible.isSlot_iff` — the slots by arithmetic
* `ActionLine.Expressible.snap_eq` — the slot that a column belongs to, by arithmetic
-/

namespace FrameScript

namespace ActionLine

variable {line : ActionLine} {column : Nat}

/-- **The slots** are the columns around the digits, the edges, and from the edge of feather on
every column. -/
theorem Expressible.isSlot_iff (h : line.Expressible) :
    line.IsSlot column ↔
      (line.firstDigit ≤ column ∧ column ≤ line.boundary) ∨
      (line.boundary < column ∧ column ≤ line.lastEdge ∧ (column - line.boundary) % 2 = 0) ∨
      .feather ∈ line.inputs ∧ line.lastEdge ≤ column := by
  rw [IsSlot, mem_edges_iff_mod, h.edgeOf?_feather]
  by_cases hfeather : Input.feather ∈ line.inputs
  · simp [hfeather]
  · simp [hfeather]

/-- **Snapping** moves columns of the frame count between its digits, columns of inputs to the
edge at or after them, and columns beyond the last edge back to it if there is no feather. -/
theorem Expressible.snap_eq (h : line.Expressible) (column : Nat) :
    line.snap column =
      if column ≤ line.boundary then max line.firstDigit column
      else if column ≤ line.lastEdge then line.boundary + 2 * ((column - line.boundary + 1) / 2)
      else if .feather ∈ line.inputs then column else line.lastEdge := by
  by_cases hboundary : column ≤ line.boundary
  · rw [if_pos hboundary]
    exact snap_of_le_boundary hboundary
  rw [if_neg hboundary]
  by_cases hpayload : .feather ∈ line.inputs ∧ line.lastEdge ≤ column
  · have hedge : line.edgeOf? .feather = some line.lastEdge := by
      rw [h.edgeOf?_feather, if_pos hpayload.1]
    rw [snap_of_feather hedge hpayload.2, if_pos hpayload.1]
    split
    · -- at the last edge both ways give the same column
      have hlast := lastEdge_eq line
      omega
    · rfl
  · have hfeather : ∀ edge, line.edgeOf? .feather = some edge → column < edge := by
      intro edge hedge
      rw [h.edgeOf?_feather] at hedge
      split at hedge
      · rename_i hin
        cases hedge
        exact Nat.not_le.mp fun hle => hpayload ⟨hin, hle⟩
      · cases hedge
    rw [snap_of_boundary_lt (Nat.not_le.mp hboundary) hfeather]
    split
    · rfl
    · rename_i hlast
      rw [if_neg fun hin => hpayload ⟨hin, Nat.le_of_not_le hlast⟩]

/-- Snapping leads beyond no column that is beyond both the column itself and the last edge. -/
theorem Expressible.snap_le {limit : Nat} (h : line.Expressible) (hcolumn : column ≤ limit)
    (hlimit : line.lastEdge ≤ limit) : line.snap column ≤ limit := by
  have hdigits := h.firstDigit_add_digits
  have hlast := lastEdge_eq line
  rw [h.snap_eq]
  split
  · omega
  · split
    · omega
    · split <;> omega

end ActionLine

end FrameScript
