import FrameScript.Proofs.ActionLine.Region
import FrameScript.Proofs.Navigation.Landing
import Mathlib.Order.Bounds.Basic

/-!
# From slot to slot on one line

The slots of an action line are a set of columns with a least and a greatest member, and a step by
one character leads from a slot to its neighbour in that set: the rules say by how many columns to
go, and landing corrects what leads beyond the end. Here that is proved for a single line. What
happens at the ends of lines is left to the walk through a document.

## Main definitions

* `Navigation.slots` — the slots of an action line that can be reached
* `Navigation.rightOf`, `Navigation.leftOf` — where the rules send a step by one character

## Main results

* `Navigation.isLeast_firstDigit`, `Navigation.isGreatest_lastSlot` — the ends of the line
* `Navigation.decideWithin_charRight`, `Navigation.decideWithin_charLeft` — the rules by arithmetic
* `Navigation.isLeast_rightOf`, `Navigation.isGreatest_leftOf` — a step leads to the next slot and
  skips none
* `Navigation.landingSlot_of_mem`, `Navigation.landingSlot_of_lastSlot_le`,
  `Navigation.landingSlot_of_le_firstDigit` — slots are landed on, and beyond the ends the end is
-/

namespace FrameScript

namespace Navigation

variable {action : ActionLine} {raw : Text} {column : Nat}

/-! ### The slots of a line -/

/-- The slots of an action line up to the last column to be reached: the columns around the digits
of the frame count, the edges of the inputs, and from the edge of feather on every column. -/
def slots (action : ActionLine) (raw : Text) : Set Nat :=
  {column | (action.firstDigit ≤ column ∧ column ≤ action.boundary) ∨ column ∈ action.edges ∨
    ∃ edge, action.edgeOf? .feather = some edge ∧ edge ≤ column ∧ column ≤ reach action raw}

/-- The slots by arithmetic. -/
theorem mem_slots_iff (h : action.Expressible) :
    column ∈ slots action raw ↔
      (action.firstDigit ≤ column ∧ column ≤ action.boundary) ∨
      (action.boundary < column ∧ column ≤ action.lastEdge ∧ (column - action.boundary) % 2 = 0) ∨
      .feather ∈ action.inputs ∧ action.lastEdge ≤ column ∧ column ≤ reach action raw := by
  rw [slots, Set.mem_ofPred_eq, ActionLine.mem_edges_iff_mod, h.edgeOf?_feather]
  by_cases hfeather : Input.feather ∈ action.inputs
  · simp [hfeather]
  · simp [hfeather]

/-- What the positions of first digit, boundary and last edge have to do with each other. -/
theorem edges_in_order (h : action.Expressible) (raw : Text) :
    1 ≤ action.firstDigit ∧ action.firstDigit < action.boundary ∧
      action.lastEdge = action.boundary + 2 * action.tokenCount ∧
      action.lastEdge ≤ reach action raw := by
  have hdigits := h.firstDigit_add_digits
  have hone := ActionLine.one_le_digits action
  exact ⟨ActionLine.one_le_firstDigit action, by omega, ActionLine.lastEdge_eq action,
    lastEdge_le_reach h raw⟩

theorem isSlot_of_mem_slots (h : action.Expressible) (hcolumn : column ∈ slots action raw) :
    action.IsSlot column := by
  rw [mem_slots_iff h] at hcolumn
  rw [h.isSlot_iff]
  exact hcolumn.imp_right (Or.imp_right fun hpayload => ⟨hpayload.1, hpayload.2.1⟩)

theorem le_reach_of_mem_slots (h : action.Expressible) (hcolumn : column ∈ slots action raw) :
    1 ≤ column ∧ column ≤ reach action raw := by
  have horder := edges_in_order h raw
  rcases (mem_slots_iff h).mp hcolumn with hdigits | htoken | ⟨-, hpayload⟩ <;> omega

/-- A slot that can be reached is landed on. -/
theorem landingSlot_of_mem (h : action.Expressible) (hcolumn : column ∈ slots action raw) :
    landingSlot action raw column = column := by
  have hle := le_reach_of_mem_slots h hcolumn
  rw [landingSlot, Nat.min_eq_left hle.2, Nat.max_eq_right hle.1, ActionLine.snap_eq_self_iff]
  exact isSlot_of_mem_slots h hcolumn

/-! ### First and last slot -/

theorem isLeast_firstDigit (h : action.Expressible) (raw : Text) :
    IsLeast (slots action raw) action.firstDigit := by
  have horder := edges_in_order h raw
  refine ⟨(mem_slots_iff h).mpr (Or.inl (by omega)), ?_⟩
  intro column hcolumn
  exact ActionLine.firstDigit_le_of_isSlot (isSlot_of_mem_slots h hcolumn)

/-- The last slot is the last column to be reached if feather is held, and else the last edge. -/
theorem lastSlot_eq (h : action.Expressible) (raw : Text) :
    lastSlot action raw =
      if .feather ∈ action.inputs then reach action raw else action.lastEdge := by
  have horder := edges_in_order h raw
  rw [lastSlot, h.snap_eq]
  split
  · -- the line ends with its frame count, so there is no feather
    rw [if_neg fun hfeather => by have := h.boundary_lt_lastEdge hfeather; omega]
    omega
  split
  · split <;> omega
  · rfl

theorem isGreatest_lastSlot (h : action.Expressible) (raw : Text) :
    IsGreatest (slots action raw) (lastSlot action raw) := by
  have horder := edges_in_order h raw
  rw [lastSlot_eq h]
  by_cases hfeather : Input.feather ∈ action.inputs
  · rw [if_pos hfeather]
    exact ⟨(mem_slots_iff h).mpr (Or.inr (Or.inr ⟨hfeather, by omega⟩)),
      fun column hcolumn => (le_reach_of_mem_slots h hcolumn).2⟩
  · rw [if_neg hfeather]
    constructor
    · rw [mem_slots_iff h]
      omega
    · intro column hcolumn
      rcases (mem_slots_iff h).mp hcolumn with hdigits | htoken | ⟨hpayload, -⟩
      · omega
      · omega
      · exact absurd hpayload hfeather

/-! ### The rules -/

/-- Where the rules send a step to the right: by one column within the frame count and from the
edge of feather on, and else by two. -/
def rightOf (action : ActionLine) (column : Nat) : Nat :=
  if column < action.boundary ∨ (.feather ∈ action.inputs ∧ action.lastEdge ≤ column) then
    column + 1
  else column + 2

/-- Where the rules send a step to the left: by two columns from the edges, and else by one. -/
def leftOf (action : ActionLine) (column : Nat) : Nat :=
  if column ≤ action.boundary ∨ action.lastEdge < column then column - 1 else column - 2

variable {p : Position}

theorem decideWithin_charRight (h : action.Expressible) (hslot : action.IsSlot p.column) :
    decideWithin action raw p .charRight = .toColumn (rightOf action p.column) := by
  rw [rightOf]
  rcases h.region_cases hslot with ⟨hregion, hlt⟩ | ⟨hregion, heq⟩ | ⟨hregion, hlt, -, hfeather⟩ |
    ⟨hregion, hfeather, -, heq⟩ | ⟨hregion, hfeather, hlt⟩
  · rw [if_pos (Or.inl hlt)]
    simp only [decideWithin, hregion]
  · rw [if_neg]
    · simp only [decideWithin, hregion]
    · rintro (hlt | ⟨hfeather, hle⟩)
      · omega
      · have := h.boundary_lt_lastEdge hfeather
        omega
  · rw [if_neg fun hor => hor.elim (Nat.not_lt.mpr (Nat.le_of_lt hlt)) hfeather]
    simp only [decideWithin, hregion]
  · rw [if_pos (Or.inr ⟨hfeather, Nat.le_of_eq heq.symm⟩)]
    simp only [decideWithin, hregion]
  · rw [if_pos (Or.inr ⟨hfeather, Nat.le_of_lt hlt⟩)]
    simp only [decideWithin, hregion]
    rfl

/-- Backspace walks over what a step to the left walks over. -/
theorem decideWithin_charLeft (h : action.Expressible) (hslot : action.IsSlot p.column)
    {m : Movement} (hm : m = .charLeft ∨ m = .backspace) :
    decideWithin action raw p m = .toColumn (leftOf action p.column) := by
  have hlast := ActionLine.boundary_le_lastEdge action
  rw [leftOf]
  rcases h.region_cases hslot with ⟨hregion, hlt⟩ | ⟨hregion, heq⟩ | ⟨hregion, hlt, hle, -⟩ |
    ⟨hregion, -, hlt, heq⟩ | ⟨hregion, -, hlt⟩
  · rw [if_pos (by omega)]
    rcases hm with rfl | rfl <;> simp only [decideWithin, hregion]
  · rw [if_pos (by omega)]
    rcases hm with rfl | rfl <;> simp only [decideWithin, hregion]
  · rw [if_neg (by omega)]
    rcases hm with rfl | rfl <;> simp only [decideWithin, hregion]
  · rw [if_neg (by omega)]
    rcases hm with rfl | rfl <;> simp only [decideWithin, hregion]
  · rw [if_pos (by omega)]
    rcases hm with rfl | rfl <;> simp only [decideWithin, hregion] <;> rfl

/-! ### One step -/

/-- Right of a slot that is not the last, the rules give the next slot. -/
theorem isLeast_rightOf (h : action.Expressible) (hcolumn : column ∈ slots action raw)
    (hlast : column < lastSlot action raw) :
    IsLeast {c | c ∈ slots action raw ∧ column < c} (rightOf action column) := by
  have horder := edges_in_order h raw
  rw [mem_slots_iff h] at hcolumn
  rw [lastSlot_eq h] at hlast
  -- from here on slots are arithmetic, with feather and without
  simp only [IsLeast, lowerBounds, Set.mem_ofPred_eq, mem_slots_iff h, rightOf]
  by_cases hfeather : Input.feather ∈ action.inputs
  · simp only [hfeather, true_and, if_true] at hcolumn hlast ⊢
    refine ⟨⟨?_, ?_⟩, ?_⟩
    · split <;> omega
    · split <;> omega
    · rintro other ⟨hother, hlt⟩
      split <;> omega
  · simp only [hfeather, false_and, or_false, if_false] at hcolumn hlast ⊢
    refine ⟨⟨?_, ?_⟩, ?_⟩
    · split <;> omega
    · split <;> omega
    · rintro other ⟨hother, hlt⟩
      split <;> omega

/-- Left of a slot that is not the first, the rules give the slot before it. -/
theorem isGreatest_leftOf (h : action.Expressible) (hcolumn : column ∈ slots action raw)
    (hfirst : action.firstDigit < column) :
    IsGreatest {c | c ∈ slots action raw ∧ c < column} (leftOf action column) := by
  have horder := edges_in_order h raw
  rw [mem_slots_iff h] at hcolumn
  simp only [IsGreatest, upperBounds, Set.mem_ofPred_eq, mem_slots_iff h, leftOf]
  by_cases hfeather : Input.feather ∈ action.inputs
  · have hlt := h.boundary_lt_lastEdge hfeather
    simp only [hfeather, true_and] at hcolumn ⊢
    refine ⟨⟨?_, ?_⟩, ?_⟩
    · split <;> omega
    · split <;> omega
    · rintro other ⟨hother, hlt⟩
      split <;> omega
  · simp only [hfeather, false_and, or_false] at hcolumn ⊢
    refine ⟨⟨?_, ?_⟩, ?_⟩
    · split <;> omega
    · split <;> omega
    · rintro other ⟨hother, hlt⟩
      split <;> omega

/-- Beyond the last slot the caret lands on it again. -/
theorem landingSlot_of_lastSlot_le (h : action.Expressible)
    (hcolumn : lastSlot action raw ≤ column) :
    landingSlot action raw column = lastSlot action raw := by
  have horder := edges_in_order h raw
  rw [lastSlot_eq h] at hcolumn ⊢
  rw [landingSlot, h.snap_eq]
  by_cases hfeather : Input.feather ∈ action.inputs
  · have hlt := h.boundary_lt_lastEdge hfeather
    rw [if_pos hfeather] at hcolumn
    simp only [hfeather, if_true]
    split
    · omega
    · split <;> omega
  · rw [if_neg hfeather] at hcolumn
    simp only [hfeather, if_false]
    split
    · omega
    · split <;> omega

/-- Before the first slot the caret lands on it again. -/
theorem landingSlot_of_le_firstDigit (h : action.Expressible) (raw : Text)
    (hcolumn : column ≤ action.firstDigit) :
    landingSlot action raw column = action.firstDigit := by
  have horder := edges_in_order h raw
  rw [landingSlot, ActionLine.snap_of_le_boundary (by omega)]
  omega

end Navigation

end FrameScript
