import FrameScript.ActionLine.Slot
import FrameScript.Proofs.ActionLine.Layout
import Mathlib.Order.Bounds.Basic

/-!
# Snapping leads to the nearest slot

Snapping looks at three regions of a line, each with its own rule, and the rules fit together: a
column goes to the nearest slot that is not left of it, and beyond all slots it goes back to the
last. This holds of every line, however it was made. The frame count may be wider than its field;
then its digits fill the field and the boundary is among them. Flags may be set that mean nothing;
then there are more edges than inputs, and feather need not stand at the last of them.

Everything else about snapping is a matter of order, and follows from `snap_cases` without another
look at the regions.

## Main results

* `ActionLine.snap_cases` — the nearest slot to the right, or else the last
* `ActionLine.isSlot_snap`, `ActionLine.snap_eq_self_iff` — snapping leads to slots, and exactly
  these stay
* `ActionLine.snap_nearest` — all of this, for every line and every column
-/

namespace FrameScript

namespace ActionLine

variable {line : ActionLine} {column : Nat}

/-! ### Edges -/

theorem lastEdge_eq (line : ActionLine) : line.lastEdge = line.boundary + 2 * line.tokenCount := rfl

/-- The edges are every second column from the boundary to the last edge. -/
theorem mem_edges_iff_mod : column ∈ line.edges ↔
    line.boundary < column ∧ column ≤ line.lastEdge ∧ (column - line.boundary) % 2 = 0 := by
  rw [mem_edges_iff, lastEdge_eq]
  constructor
  · rintro ⟨k, hone, hle, rfl⟩
    rw [edge]
    omega
  · rintro ⟨hboundary, hlast, heven⟩
    refine ⟨(column - line.boundary) / 2, by omega, by omega, ?_⟩
    rw [edge]
    omega

theorem find?_edges (hboundary : line.boundary < column) (hlast : column ≤ line.lastEdge) :
    line.edges.find? (column ≤ ·) = some (line.edge ((column - line.boundary + 1) / 2)) := by
  rw [lastEdge_eq] at hlast
  rw [edges, List.find?_map, Option.map_eq_some_iff]
  refine ⟨_, List.find?_range'_eq_some.mpr ⟨?_, ?_, ?_⟩, rfl⟩
  · exact decide_eq_true (by rw [edge]; omega)
  · rw [List.mem_range'_1]
    omega
  · intro k hone hlt
    rw [Function.comp_apply, decide_eq_false (by rw [edge]; omega)]
    rfl

theorem find?_edges_of_lastEdge_lt (hlast : line.lastEdge < column) :
    line.edges.find? (column ≤ ·) = none := by
  rw [List.find?_eq_none]
  intro edge hedge
  have := (mem_edges_iff_mod.mp hedge).2.1
  rw [decide_eq_true_iff]
  omega

/-- The edge of an input is among the edges, of which there are as many as flags. -/
theorem mem_edges_of_edgeOf? {i : Input} (h : line.edgeOf? i = some column) :
    column ∈ line.edges := by
  obtain ⟨place, hplace, rfl⟩ := Option.map_eq_some_iff.mp h
  obtain ⟨hlt, -⟩ := List.getElem?_eq_some_iff.mp (InputSet.position?_eq_some_iff.mp hplace)
  have hle : line.inputs.members.length ≤ line.tokenCount := line.inputs.length_members_le_size
  exact mem_edges_iff.mpr ⟨place + 1, Nat.le_add_left .., Nat.le_trans hlt hle, rfl⟩

/-! ### The rules of snapping -/

theorem firstDigit_le_boundary (line : ActionLine) : line.firstDigit ≤ line.boundary := by
  rw [firstDigit, leadingSpaces, boundary]
  omega

/-- In the frame count field columns move to the first digit, if they are left of it. -/
theorem snap_of_le_boundary (hcolumn : column ≤ line.boundary) :
    line.snap column = max line.firstDigit column := by
  have hfirst : line.firstDigit = line.width.columns - line.digits + 1 := rfl
  have hboundary : line.boundary = line.width.columns + 1 := rfl
  simp only [snap]
  rw [if_pos (by omega)]
  omega

/-- From the edge of feather on columns stay. -/
theorem snap_of_feather {edge : Nat} (hedge : line.edgeOf? .feather = some edge)
    (hcolumn : edge ≤ column) : line.snap column = column := by
  have hlt := (mem_edges_iff_mod.mp (mem_edges_of_edgeOf? hedge)).1
  have hone : max column 1 = column := by omega
  simp only [snap, hone]
  rw [if_neg (by omega), hedge, Option.any_some, if_pos (decide_eq_true hcolumn)]

/-- In between columns move to the next edge, and beyond the last edge back to it. -/
theorem snap_of_boundary_lt (hboundary : line.boundary < column)
    (hfeather : ∀ edge, line.edgeOf? .feather = some edge → column < edge) :
    line.snap column =
      if column ≤ line.lastEdge then line.edge ((column - line.boundary + 1) / 2)
      else line.lastEdge := by
  have hone : max column 1 = column := by omega
  have hfree : (line.edgeOf? .feather).any (· ≤ column) = false := by
    cases hedge : line.edgeOf? .feather with
    | none => rfl
    | some edge => exact decide_eq_false (Nat.not_le.mpr (hfeather edge hedge))
  simp only [snap, hone]
  rw [if_neg (Nat.not_le.mpr hboundary), hfree, if_neg Bool.false_ne_true]
  split
  · rename_i hlast
    rw [find?_edges hboundary hlast, Option.getD_some]
  · rename_i hlast
    rw [find?_edges_of_lastEdge_lt (Nat.not_le.mp hlast), Option.getD_none]

/-! ### The nearest slot -/

/-- No slot lies before the first digit. -/
theorem firstDigit_le_of_isSlot (h : line.IsSlot column) : line.firstDigit ≤ column := by
  have hle := line.firstDigit_le_boundary
  rcases h with hdigits | hedge | ⟨edge, hedge, hpayload⟩
  · exact hdigits.1
  · have := mem_edges_iff_mod.mp hedge
    omega
  · have := mem_edges_iff_mod.mp (mem_edges_of_edgeOf? hedge)
    omega

theorem isSlot_lastEdge (line : ActionLine) : line.IsSlot line.lastEdge := by
  have hfirst := line.firstDigit_le_boundary
  have hlast := lastEdge_eq line
  by_cases hnone : line.tokenCount = 0
  · exact Or.inl (by omega)
  · exact Or.inr (Or.inl (mem_edges_iff_mod.mpr (by omega)))

/-- Between boundary and feather, every slot further right is an edge or lies beyond one. -/
theorem exists_mem_edges_of_isSlot (hboundary : line.boundary < column)
    (hfeather : ∀ edge, line.edgeOf? .feather = some edge → column < edge) {slot : Nat}
    (hslot : line.IsSlot slot) (hle : column ≤ slot) :
    ∃ edge ∈ line.edges, column ≤ edge ∧ edge ≤ slot := by
  rcases hslot with hslot | hslot | ⟨edge, hedge, hslot⟩
  · omega
  · exact ⟨slot, hslot, hle, Nat.le_refl _⟩
  · exact ⟨edge, mem_edges_of_edgeOf? hedge, Nat.le_of_lt (hfeather edge hedge), hslot⟩

/-- **Snapping** leads to the nearest slot that is not left of a column. If there is none, it leads
to the last slot. -/
theorem snap_cases (line : ActionLine) (column : Nat) :
    IsLeast {slot | line.IsSlot slot ∧ column ≤ slot} (line.snap column) ∨
      (∀ slot, line.IsSlot slot → slot < column) ∧
        IsGreatest {slot | line.IsSlot slot} (line.snap column) := by
  have hfirst := line.firstDigit_le_boundary
  have hlast := lastEdge_eq line
  rcases Nat.lt_or_ge line.boundary column with hboundary | hdigits
  · by_cases hpayload : ∃ edge, line.edgeOf? .feather = some edge ∧ edge ≤ column
    · obtain ⟨edge, hedge, hle⟩ := id hpayload
      rw [snap_of_feather hedge hle]
      exact Or.inl ⟨⟨Or.inr (Or.inr hpayload), Nat.le_refl _⟩, fun slot hslot => hslot.2⟩
    have hfeather : ∀ edge, line.edgeOf? .feather = some edge → column < edge := by
      intro edge hedge
      exact Nat.not_le.mp fun hle => hpayload ⟨edge, hedge, hle⟩
    rw [snap_of_boundary_lt hboundary hfeather]
    split
    · left
      constructor
      · rw [Set.mem_ofPred_eq, edge]
        exact ⟨Or.inr (Or.inl (mem_edges_iff_mod.mpr (by omega))), by omega⟩
      · rintro slot ⟨hslot, hle⟩
        obtain ⟨next, hnext, hcolumn, hle⟩ :=
          exists_mem_edges_of_isSlot hboundary hfeather hslot hle
        have := mem_edges_iff_mod.mp hnext
        rw [edge]
        omega
    · have hbeyond : ∀ slot, line.IsSlot slot → slot < column := by
        intro slot hslot
        refine Nat.not_le.mp fun hle => ?_
        obtain ⟨next, hnext, hcolumn, -⟩ :=
          exists_mem_edges_of_isSlot hboundary hfeather hslot hle
        have := mem_edges_iff_mod.mp hnext
        omega
      refine Or.inr ⟨hbeyond, line.isSlot_lastEdge, ?_⟩
      rintro slot (hslot | hslot | ⟨edge, hedge, -⟩)
      · omega
      · exact (mem_edges_iff_mod.mp hslot).2.1
      · -- the edge of feather would be a slot further right
        have := hbeyond edge (Or.inr (Or.inl (mem_edges_of_edgeOf? hedge)))
        have := hfeather edge hedge
        omega
  · rw [snap_of_le_boundary hdigits]
    refine Or.inl ⟨⟨Or.inl (by omega), by omega⟩, ?_⟩
    rintro slot ⟨hslot, hle⟩
    exact Nat.max_le.mpr ⟨firstDigit_le_of_isSlot hslot, hle⟩

/-! ### What follows by order -/

/-- What has been snapped is a slot. -/
theorem isSlot_snap (line : ActionLine) (column : Nat) : line.IsSlot (line.snap column) := by
  rcases line.snap_cases column with hleast | ⟨-, hgreatest⟩
  · exact hleast.1.1
  · exact hgreatest.1

theorem one_le_snap (line : ActionLine) (column : Nat) : 1 ≤ line.snap column :=
  Nat.le_trans (one_le_firstDigit line) (firstDigit_le_of_isSlot (line.isSlot_snap column))

/-- Where there are slots to the right, snapping leads to the nearest. -/
theorem isLeast_snap (h : ∃ slot, line.IsSlot slot ∧ column ≤ slot) :
    IsLeast {slot | line.IsSlot slot ∧ column ≤ slot} (line.snap column) := by
  obtain ⟨slot, hslot, hle⟩ := h
  rcases line.snap_cases column with hleast | ⟨hbeyond, -⟩
  · exact hleast
  · exact absurd hle (Nat.not_le.mpr (hbeyond slot hslot))

/-- Snapping leads beyond no slot that is not left of the column. -/
theorem snap_le_of_isSlot {slot : Nat} (hslot : line.IsSlot slot) (hle : column ≤ slot) :
    line.snap column ≤ slot :=
  (isLeast_snap ⟨slot, hslot, hle⟩).2 ⟨hslot, hle⟩

/-- Slots, and only slots, stay. -/
theorem snap_eq_self_iff : line.snap column = column ↔ line.IsSlot column := by
  constructor
  · intro hsnap
    rw [← hsnap]
    exact line.isSlot_snap column
  · intro hslot
    have hleast := isLeast_snap ⟨column, hslot, Nat.le_refl _⟩
    exact Nat.le_antisymm (hleast.2 ⟨hslot, Nat.le_refl _⟩) hleast.1.2

theorem snap_snap (line : ActionLine) (column : Nat) :
    line.snap (line.snap column) = line.snap column :=
  snap_eq_self_iff.mpr (line.isSlot_snap column)

theorem snap_mono (line : ActionLine) : Monotone line.snap := by
  intro column other hle
  rcases line.snap_cases other with hleast | ⟨-, hgreatest⟩
  · have hslot : line.IsSlot (line.snap other) ∧ column ≤ line.snap other :=
      ⟨hleast.1.1, Nat.le_trans hle hleast.1.2⟩
    exact (isLeast_snap ⟨_, hslot⟩).2 hslot
  · exact hgreatest.2 (line.isSlot_snap column)

/-- A column that is not let beyond a limit comes back to where it was if it is a slot and there is
no other from the limit on before it. -/
theorem snap_min_eq_self_iff {limit : Nat} : line.snap (min column limit) = column ↔
    line.IsSlot column ∧ ∀ slot, line.IsSlot slot → limit ≤ slot → column ≤ slot := by
  constructor
  · intro hsnap
    refine ⟨hsnap ▸ line.isSlot_snap _, fun slot hslot hlimit => ?_⟩
    rw [← hsnap]
    exact snap_le_of_isSlot hslot (Nat.le_trans (Nat.min_le_right ..) hlimit)
  · rintro ⟨hslot, hnone⟩
    refine Nat.le_antisymm (snap_le_of_isSlot hslot (Nat.min_le_left ..)) ?_
    rcases Nat.le_total column limit with hle | hge
    · rw [Nat.min_eq_left hle, snap_eq_self_iff.mpr hslot]
    · have hleast := isLeast_snap ⟨column, hslot, Nat.min_le_left column limit⟩
      rw [Nat.min_eq_right hge] at hleast ⊢
      exact hnone _ hleast.1.1 hleast.1.2

/-- **Snapping leads to the nearest slot** to the right, and beyond all slots to the last. So it
leads to slots, keeps exactly these where they are, has nothing left to do when it is repeated and
keeps columns in order; and it does not lead out of the frame count field. -/
theorem snap_nearest (line : ActionLine) (column : Nat) :
    ((∃ slot, line.IsSlot slot ∧ column ≤ slot) →
      IsLeast {slot | line.IsSlot slot ∧ column ≤ slot} (line.snap column)) ∧
    ((¬∃ slot, line.IsSlot slot ∧ column ≤ slot) →
      IsGreatest {slot | line.IsSlot slot} (line.snap column)) ∧
    line.IsSlot (line.snap column) ∧
    (line.snap column = column ↔ line.IsSlot column) ∧
    line.snap (line.snap column) = line.snap column ∧
    Monotone line.snap ∧
    (column ≤ line.boundary →
      line.leadingSpaces + 1 ≤ line.snap column ∧ line.snap column ≤ line.boundary) := by
  refine ⟨isLeast_snap, ?_, line.isSlot_snap column, snap_eq_self_iff, line.snap_snap column,
    line.snap_mono, ?_⟩
  · intro hnone
    rcases line.snap_cases column with hleast | ⟨-, hgreatest⟩
    · exact absurd ⟨_, hleast.1⟩ hnone
    · exact hgreatest
  · intro hcolumn
    rw [snap_of_le_boundary hcolumn]
    exact ⟨Nat.le_max_left .., Nat.max_le.mpr ⟨line.firstDigit_le_boundary, hcolumn⟩⟩

/-- A frame count of six digits in a field of four, and a flag that means nothing: the digits fill
the field, and behind the edge of the input there is another. Beyond it lie no slots, however far
one looks. -/
theorem snap_nearest_of_unknown_flag :
    ∃ line : ActionLine, line = ofFrames 123456 (.ofFlags (1#32 <<< 4 ||| 1#32 <<< 20)) ∧
      IsLeast {slot | line.IsSlot slot ∧ 0 ≤ slot} 1 ∧
      IsLeast {slot | line.IsSlot slot ∧ 8 ≤ slot} 9 ∧
      IsGreatest {slot | line.IsSlot slot} 9 ∧ line.snap (UInt64.size - 1) = 9 ∧
      line.snap 5 ≤ line.boundary := by
  refine ⟨_, rfl, ?_⟩
  have hslot : (ofFrames 123456 (.ofFlags (1#32 <<< 4 ||| 1#32 <<< 20))).IsSlot 9 :=
    Or.inr (Or.inl (by decide +kernel))
  have hsize : 9 < UInt64.size - 1 := by decide
  have hfar : ¬∃ slot, (ofFrames 123456 (.ofFlags (1#32 <<< 4 ||| 1#32 <<< 20))).IsSlot slot ∧
      UInt64.size - 1 ≤ slot := by
    rintro ⟨slot, hslot | hslot | ⟨edge, hedge, -⟩, hle⟩
    · have hle' : slot ≤ 5 := hslot.2
      omega
    · have hle' : slot ≤ 9 := (mem_edges_iff_mod.mp hslot).2.1
      omega
    · cases hedge.symm.trans (show _ = none by decide +kernel)
  have hzero := (snap_nearest _ 0).1 ⟨9, hslot, by omega⟩
  have height := (snap_nearest _ 8).1 ⟨9, hslot, by omega⟩
  have hlast := (snap_nearest _ (UInt64.size - 1)).2.1 hfar
  exact ⟨hzero, height, hlast, by decide +kernel,
    ((snap_nearest _ 5).2.2.2.2.2.2 (by decide +kernel)).2⟩

end ActionLine

end FrameScript
