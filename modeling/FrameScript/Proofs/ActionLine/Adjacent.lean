import FrameScript.Proofs.ActionLine.Region

/-!
# Looking letters up is asking the layout

The inputs that a movement looks at are read off the canonical text, and the layout says where the
letters of a text would stand without writing it. On an expressible line both answer alike. A
movement looks only beyond the boundary, and there the text has a letter left of each edge, that of
the input whose edge it is, and no letter elsewhere: left of the other columns stand the commas
between the inputs, or the characters of angle and magnitude. `Expressible.mem_adjacent_iff` says
this once for all movements.

A look to either side then sees one input, the one whose edge is in the right place. A look along
the line sees every second column, so that it finds all inputs from an edge and, to the left, none
from between two edges. Columns between edges are slots too in the numbers behind feather, and there
every second look to the left finds nothing.

## Main definitions

* `ActionLine.inputsAt` — the inputs whose edges satisfy a condition
* `ActionLine.OddBehindFeather` — a column from which a look to the left passes the letters by

## Main results

* `ActionLine.Expressible.letterLeft?_eq_some_iff` — left of a column stands the letter of an input
  exactly if the column is its edge
* `ActionLine.Expressible.adjacent_eq` — what a movement looks at, by the layout
* `ActionLine.single_lookup_by_layout` — the looks at one input, and the regions that they tell
* `ActionLine.word_lookup_splits_iff` — the looks along the line, and when they see every input once
-/

namespace FrameScript

namespace ActionLine

variable {line : ActionLine} {column : Nat} {i : Input}

/-! ### Inputs by their edges -/

/-- The inputs whose edges satisfy a condition. -/
def inputsAt (line : ActionLine) (p : Nat → Bool) : InputSet :=
  .ofList (Input.all.filter fun i => (line.edgeOf? i).any p)

theorem mem_inputsAt {p : Nat → Bool} :
    i ∈ line.inputsAt p ↔ ∃ edge, line.edgeOf? i = some edge ∧ p edge = true := by
  rw [inputsAt, InputSet.mem_ofList, List.mem_filter, Option.any_eq_true]
  exact and_iff_right (Input.mem_all i)

theorem isKnown_inputsAt (line : ActionLine) (p : Nat → Bool) :
    (line.inputsAt p).isKnown = true :=
  InputSet.isKnown_ofList _

/-- Only the edges matter. -/
theorem inputsAt_congr {p q : Nat → Bool}
    (h : ∀ i edge, line.edgeOf? i = some edge → (p edge = true ↔ q edge = true)) :
    line.inputsAt p = line.inputsAt q := by
  refine InputSet.eq_of_mem_iff (line.isKnown_inputsAt p) (line.isKnown_inputsAt q) fun i => ?_
  rw [mem_inputsAt, mem_inputsAt]
  exact exists_congr fun edge => and_congr_right fun hedge => h i edge hedge

theorem inputsAt_eq_empty {p : Nat → Bool}
    (h : ∀ i edge, line.edgeOf? i = some edge → ¬ p edge = true) : line.inputsAt p = ∅ := by
  refine InputSet.eq_of_mem_iff (line.isKnown_inputsAt p) InputSet.isKnown_empty fun i => ?_
  rw [mem_inputsAt]
  refine iff_of_false ?_ (InputSet.not_mem_empty i)
  rintro ⟨edge, hedge, hp⟩
  exact h i edge hedge hp

theorem mem_inputs_iff_edge : i ∈ line.inputs ↔ ∃ edge, line.edgeOf? i = some edge := by
  rw [← Option.isSome_iff_exists, edgeOf?, Option.isSome_map, Option.isSome_iff_ne_none, ne_eq,
    InputSet.position?_eq_none_iff, Classical.not_not]

theorem inputsAt_inter_eq_empty {p q : Nat → Bool}
    (h : ∀ edge, p edge = true → ¬ q edge = true) : line.inputsAt p ∩ line.inputsAt q = ∅ := by
  refine InputSet.eq_of_mem_iff (InputSet.isKnown_inter (line.isKnown_inputsAt p))
    InputSet.isKnown_empty fun i => iff_of_false ?_ (InputSet.not_mem_empty i)
  rw [InputSet.mem_inter, mem_inputsAt, mem_inputsAt]
  rintro ⟨⟨edge, hedge, hp⟩, ⟨_, hsame, hq⟩⟩
  rw [hedge] at hsame
  cases hsame
  exact h edge hp hq

theorem inputsAt_union_eq_inputs {p q : Nat → Bool} (hknown : line.inputs.isKnown = true)
    (h : ∀ edge, p edge = true ∨ q edge = true) :
    line.inputsAt p ∪ line.inputsAt q = line.inputs := by
  refine InputSet.eq_of_mem_iff
    (InputSet.isKnown_union (line.isKnown_inputsAt p) (line.isKnown_inputsAt q)) hknown fun i => ?_
  rw [InputSet.mem_union, mem_inputsAt, mem_inputsAt, mem_inputs_iff_edge, ← exists_or]
  refine exists_congr fun edge => ?_
  rw [← and_or_left]
  exact and_iff_left (h edge)

/-- Edges lie beyond the boundary, an even number of columns from it, and not beyond the last. -/
theorem edge_bounds {edge : Nat} (h : line.edgeOf? i = some edge) :
    line.boundary < edge ∧ edge ≤ line.lastEdge ∧ (edge - line.boundary) % 2 = 0 :=
  mem_edges_iff_mod.mp (mem_edges_of_edgeOf? h)

/-- No two inputs have the same edge. -/
theorem edgeOf?_injective {j : Input} (hi : line.edgeOf? i = some column)
    (hj : line.edgeOf? j = some column) : i = j := by
  obtain ⟨k, hk, rfl⟩ := edgeOf?_eq_some_iff.mp hi
  obtain ⟨l, hl, hedge⟩ := edgeOf?_eq_some_iff.mp hj
  rw [edge, edge] at hedge
  obtain rfl : k = l := by omega
  rw [hk] at hl
  exact Option.some.inj hl

theorem inputsAt_eq_single (h : line.edgeOf? i = some column) :
    line.inputsAt (· = column) = .single i := by
  refine InputSet.eq_of_mem_iff (line.isKnown_inputsAt _) (InputSet.isKnown_single i) fun j => ?_
  rw [mem_inputsAt, InputSet.mem_single]
  constructor
  · rintro ⟨edge, hedge, hp⟩
    rw [of_decide_eq_true hp] at hedge
    exact edgeOf?_injective h hedge
  · rintro rfl
    exact ⟨column, h, decide_eq_true rfl⟩

/-- At most one input has its edge at a column. -/
theorem inputsAt_empty_or_single (line : ActionLine) (column : Nat) :
    line.inputsAt (· = column) = ∅ ∨
      ∃ i, line.inputsAt (· = column) = .single i ∧ line.edgeOf? i = some column := by
  by_cases h : ∃ i, line.edgeOf? i = some column
  · obtain ⟨i, hi⟩ := h
    exact Or.inr ⟨i, inputsAt_eq_single hi, hi⟩
  · refine Or.inl (inputsAt_eq_empty fun i edge hedge hp => h ⟨i, ?_⟩)
    rwa [of_decide_eq_true hp] at hedge

/-! ### Letters and edges -/

/-- Right of a comma, the comma is all that stands to the left. -/
theorem Expressible.letterLeft?_comma (h : line.Expressible) {k : Nat}
    (hk : k < line.tokenCount) : line.letterLeft? (line.edge k + 1) = none := by
  rw [h.tokenCount_eq] at hk
  have hplace : line.edge k + 1 - 2 = line.framesText.length + 2 * k := by
    rw [h.length_framesText, edge, boundary]
    omega
  rw [letterLeft?, hplace, render_eq_tokensText, List.getElem?_append_right (Nat.le_add_right ..),
    Nat.add_sub_cancel_left, (getElem?_tokensText (List.getElem?_eq_getElem hk)).1]
  rfl

/-- **Letters stand left of the edges**, each left of the edge of its input. -/
theorem Expressible.letterLeft?_eq_some_iff (h : line.Expressible)
    (hcolumn : line.boundary < column) :
    line.letterLeft? column = some i ↔ line.edgeOf? i = some column := by
  constructor
  · intro hletter
    have hlast : column ≤ line.lastEdge := by
      refine Nat.not_lt.mp fun hbeyond => ?_
      rw [h.letterLeft?_of_lastEdge_lt hbeyond] at hletter
      cases hletter
    rw [lastEdge_eq] at hlast
    -- the column is an edge, or it follows the comma of the input whose edge comes next
    obtain ⟨k, hk, hedge | hcomma⟩ : ∃ k < line.tokenCount,
        line.edge (k + 1) = column ∨ line.edge k + 1 = column := by
      refine ⟨(column - line.boundary - 1) / 2, by omega, ?_⟩
      rw [edge, edge]
      omega
    · have hmember := List.getElem?_eq_getElem (h.tokenCount_eq ▸ hk)
      have hedge' := h.letterLeft?_edge hmember
      rw [hedge, hletter] at hedge'
      exact edgeOf?_eq_some_iff.mpr ⟨k, hmember.trans hedge'.symm, hedge⟩
    · rw [← hcomma, h.letterLeft?_comma hk] at hletter
      cases hletter
  · intro hedge
    obtain ⟨k, hk, rfl⟩ := edgeOf?_eq_some_iff.mp hedge
    exact h.letterLeft?_edge hk

/-! ### What movements look at -/

/-- No movement looks into the frame count. -/
theorem boundary_lt_of_looksAt {m : Movement} {edge : Nat}
    (h : line.looksAt column m edge = true) : line.boundary < edge := by
  cases m <;> simp [looksAt] at h <;> omega

/-- **Looking letters up** is asking the layout. -/
theorem Expressible.mem_adjacent_iff (h : line.Expressible) {m : Movement} :
    i ∈ line.adjacent column m ↔
      ∃ edge, line.edgeOf? i = some edge ∧ line.looksAt column m edge = true := by
  rw [ActionLine.mem_adjacent_iff]
  constructor
  · rintro ⟨index, c, hc, hlooks, hi⟩
    refine ⟨index + 2, ?_, hlooks⟩
    rw [← h.letterLeft?_eq_some_iff (boundary_lt_of_looksAt hlooks), letterLeft?,
      Nat.add_sub_cancel, hc]
    exact hi
  · rintro ⟨edge, hedge, hlooks⟩
    have hboundary := boundary_lt_of_looksAt hlooks
    have htwo : edge - 2 + 2 = edge := by
      rw [boundary] at hboundary
      omega
    obtain ⟨c, hc, hi⟩ :=
      Option.bind_eq_some_iff.mp ((h.letterLeft?_eq_some_iff hboundary).mpr hedge)
    exact ⟨edge - 2, c, hc, by rwa [htwo], hi⟩

theorem Expressible.adjacent_eq (h : line.Expressible) (m : Movement) :
    line.adjacent column m = line.inputsAt (line.looksAt column m) := by
  refine InputSet.eq_of_mem_iff (InputSet.isKnown_ofList _) (line.isKnown_inputsAt _) fun i => ?_
  rw [h.mem_adjacent_iff, mem_inputsAt]

/-! ### One input -/

theorem Expressible.adjacent_left (h : line.Expressible) {m : Movement}
    (hm : m = .charLeft ∨ m = .backspace) :
    line.adjacent column m = line.inputsAt (· = column) := by
  rw [h.adjacent_eq]
  refine inputsAt_congr fun i edge hedge => ?_
  have hbounds := edge_bounds hedge
  rcases hm with rfl | rfl <;> simp [looksAt] <;> omega

theorem Expressible.adjacent_charRight (h : line.Expressible) :
    line.adjacent column .charRight = line.inputsAt (· = column + 2) := by
  rw [h.adjacent_eq]
  refine inputsAt_congr fun i edge hedge => ?_
  have hbounds := edge_bounds hedge
  simp [looksAt]
  omega

/-- In the digits and at the boundary no letter is asked for. -/
theorem region_of_le_boundary (hdigits : column ≤ line.boundary) :
    line.region column = .digits ∨ line.region column = .boundary := by
  rw [region]
  rcases Nat.lt_or_eq_of_le hdigits with hlt | rfl
  · exact Or.inl (if_pos hlt)
  · exact Or.inr (by rw [if_neg (Nat.lt_irrefl _), if_pos rfl])

/-- Feather is told by its edge. -/
theorem Expressible.region_eq_feather_iff (h : line.Expressible) :
    line.region column = .feather ↔ line.edgeOf? .feather = some column := by
  rcases Nat.lt_or_ge line.boundary column with hboundary | hdigits
  · rw [region_of_boundary_lt hboundary, ← h.letterLeft?_eq_some_iff hboundary]
    cases line.letterLeft? column with
    | none => simp
    | some i => by_cases hi : i = .feather <;> simp [hi]
  · refine iff_of_false ?_ fun hedge => Nat.not_lt.mpr hdigits (edge_bounds hedge).1
    rcases region_of_le_boundary hdigits with hregion | hregion <;> simp [hregion]

/-- And so are the other inputs. -/
theorem Expressible.region_eq_token_iff (h : line.Expressible) :
    line.region column = .token ↔ ∃ i, i ≠ .feather ∧ line.edgeOf? i = some column := by
  rcases Nat.lt_or_ge line.boundary column with hboundary | hdigits
  · simp only [region_of_boundary_lt hboundary, ← h.letterLeft?_eq_some_iff hboundary]
    cases line.letterLeft? column with
    | none => simp
    | some i => by_cases hi : i = .feather <;> simp [hi]
  · refine iff_of_false ?_ ?_
    · rcases region_of_le_boundary hdigits with hregion | hregion <;> simp [hregion]
    · rintro ⟨i, -, hedge⟩
      exact Nat.not_lt.mpr hdigits (edge_bounds hedge).1

/-- Where no edge is, there is no letter to the left: in the digits and at the boundary, between a
comma and its letter, in the numbers behind feather, and beyond the end. -/
theorem Expressible.adjacent_left_eq_empty (h : line.Expressible)
    (hcolumn : column ≤ line.boundary ∨ (∃ i, line.edgeOf? i = some (column + 1)) ∨
      (∃ edge, line.edgeOf? .feather = some edge ∧ edge < column) ∨
      line.textLength + 1 < column) :
    line.adjacent column .charLeft = ∅ := by
  rw [h.adjacent_left (Or.inl rfl)]
  refine inputsAt_eq_empty fun i edge hedge hp => ?_
  have hsame : edge = column := of_decide_eq_true hp
  have hbounds := edge_bounds hedge
  rcases hcolumn with hdigits | ⟨j, hj⟩ | ⟨last, hlast, hlt⟩ | hend
  · omega
  · have := edge_bounds hj
    omega
  · rw [h.edgeOf?_feather] at hlast
    split at hlast
    · cases hlast
      omega
    · cases hlast
  · have := h.lastEdge_le
    omega

/-- **Looks at one input.** A step to the left sees the input whose edge the column is, a step to
the right the one whose edge comes two columns later. So a step to the left sees one input at most,
and none where no edge is. On slots the regions are told by the same edges: that of feather, those
of the other inputs, and beyond them the numbers, which only feather can have. -/
theorem single_lookup_by_layout {columns : Nat} {text : Text}
    (h : parse columns text = .ok line) (column : Nat) :
    (∀ m, m = .charLeft ∨ m = .backspace → line.adjacent column m = line.inputsAt (· = column)) ∧
    line.adjacent column .charRight = line.inputsAt (· = column + 2) ∧
    (line.adjacent column .charLeft = ∅ ∨
      ∃ i, line.adjacent column .charLeft = .single i ∧ line.edgeOf? i = some column) ∧
    (column ≤ line.boundary ∨ (∃ i, line.edgeOf? i = some (column + 1)) ∨
        (∃ edge, line.edgeOf? .feather = some edge ∧ edge < column) ∨
        line.textLength + 1 < column →
      line.adjacent column .charLeft = ∅) ∧
    (line.snap column = column →
      (line.region column = .feather ↔ line.edgeOf? .feather = some column) ∧
      (line.region column = .token ↔ ∃ i, i ≠ .feather ∧ line.edgeOf? i = some column) ∧
      (line.region column = .payload → .feather ∈ line.inputs)) := by
  have hline := expressible_of_parse h
  refine ⟨fun m hm => hline.adjacent_left hm, hline.adjacent_charRight, ?_,
    hline.adjacent_left_eq_empty, fun hsnap => ⟨hline.region_eq_feather_iff,
      hline.region_eq_token_iff, fun hpayload => ?_⟩⟩
  · rw [hline.adjacent_left (Or.inl rfl)]
    exact line.inputsAt_empty_or_single column
  · rcases hline.region_cases (snap_eq_self_iff.mp hsnap) with hregion | hregion | hregion |
      hregion | hregion
    case inr.inr.inr.inr => exact hregion.2.1
    all_goals exact absurd (hregion.1.symm.trans hpayload) (by decide)

/-- A line that aims half a unit far: the letters are seen from their edges, and in the numbers
there is nothing to see. -/
theorem single_lookup_before_point :
    ∃ line, parse 4 "7,f,.5,r".toList = .ok line ∧ line.render = "   7,R,F,0.5".toList ∧
      line.adjacent 9 .charLeft = line.inputsAt (· = 9) ∧
      line.adjacent 9 .charLeft = .single .feather ∧
      line.adjacent 7 .charRight = line.inputsAt (· = 9) ∧
      line.adjacent 11 .charLeft = ∅ ∧
      (line.region 9 = .feather ↔ line.edgeOf? .feather = some 9) := by
  have hfacts : (parse? 4 "7,f,.5,r".toList).any (fun line =>
      line.render = "   7,R,F,0.5".toList ∧ line.adjacent 9 .charLeft = .single .feather ∧
        line.edgeOf? .feather = some 9 ∧ line.snap 9 = 9) = true := by
    decide +kernel
  obtain ⟨line, hread, hline⟩ := Option.any_eq_true _ _ |>.mp hfacts
  obtain ⟨hrender, hsingle, hedge, hsnap⟩ := of_decide_eq_true hline
  have hparse := parse?_eq_some_iff.mp hread
  obtain ⟨hleft, -, -, -, hregion⟩ := single_lookup_by_layout hparse 9
  obtain ⟨-, hright, -⟩ := single_lookup_by_layout hparse 7
  obtain ⟨-, -, -, hempty, -⟩ := single_lookup_by_layout hparse 11
  exact ⟨line, hparse, hrender, hleft _ (Or.inl rfl), hsingle, hright,
    hempty (Or.inr (Or.inr (Or.inl ⟨9, hedge, by decide⟩))), (hregion hsnap).1⟩

/-! ### All inputs on one side -/

/-- The column lies behind feather, an odd number of columns from its edge. -/
def OddBehindFeather (line : ActionLine) (column : Nat) : Prop :=
  ∃ edge, line.edgeOf? .feather = some edge ∧ edge < column ∧ (column - edge) % 2 = 1

/-- The only slots between edges are those behind feather. -/
theorem Expressible.oddBehindFeather_iff (h : line.Expressible)
    (hboundary : line.boundary ≤ column) (hslot : line.IsSlot column) :
    line.OddBehindFeather column ↔ (column - line.boundary) % 2 = 1 := by
  have hlast := lastEdge_eq line
  rw [OddBehindFeather, h.edgeOf?_feather]
  constructor
  · rintro ⟨edge, hedge, hlt, hodd⟩
    split at hedge
    · cases hedge
      omega
    · cases hedge
  · intro hodd
    rcases h.isSlot_iff.mp hslot with hdigits | heven | ⟨hfeather, hle⟩
    · omega
    · omega
    · exact ⟨line.lastEdge, if_pos hfeather, by omega, by omega⟩

/-- A look along the line to the right sees the edges beyond the column. -/
theorem Expressible.adjacent_wordRight (h : line.Expressible)
    (hboundary : line.boundary ≤ column) (hslot : line.IsSlot column) :
    line.adjacent column .wordRight = line.inputsAt (column < ·) := by
  rw [h.adjacent_eq]
  refine inputsAt_congr fun i edge hedge => ?_
  have hbounds := edge_bounds hedge
  have hslots := h.isSlot_iff.mp hslot
  simp only [looksAt, Bool.and_eq_true, decide_eq_true_eq]
  omega

/-- A look along the line to the left sees the edges up to the column, if the column is an even
number of columns behind the boundary. -/
theorem Expressible.adjacent_wordLeft_of_even (h : line.Expressible)
    (heven : (column - line.boundary) % 2 = 0) :
    line.adjacent column .wordLeft = line.inputsAt (· ≤ column) := by
  rw [h.adjacent_eq]
  refine inputsAt_congr fun i edge hedge => ?_
  have hbounds := edge_bounds hedge
  simp only [looksAt, Bool.and_eq_true, decide_eq_true_eq]
  omega

/-- And otherwise it passes all letters by. -/
theorem Expressible.adjacent_wordLeft_of_odd (h : line.Expressible)
    (hodd : (column - line.boundary) % 2 = 1) : line.adjacent column .wordLeft = ∅ := by
  rw [h.adjacent_eq]
  refine inputsAt_eq_empty fun i edge hedge hlooks => ?_
  have hbounds := edge_bounds hedge
  simp only [looksAt, Bool.and_eq_true, decide_eq_true_eq] at hlooks
  omega

/-- **Looks along the line.** To the right a movement sees the inputs with their edges beyond the
column, and to the left those with their edges up to it, unless the column lies an odd number of
columns behind feather: from there it sees none. So no input is seen on both sides, and all of them
are seen exactly from the other slots. -/
theorem word_lookup_splits_iff {columns : Nat} {text : Text} (h : parse columns text = .ok line)
    (hboundary : line.boundary ≤ column) (hsnap : line.snap column = column) :
    line.adjacent column .wordRight = line.inputsAt (column < ·) ∧
    (line.adjacent column .wordLeft = line.inputsAt (· ≤ column) ↔
      ¬ line.OddBehindFeather column) ∧
    (line.OddBehindFeather column → line.adjacent column .wordLeft = ∅) ∧
    line.adjacent column .wordLeft ∩ line.adjacent column .wordRight = ∅ ∧
    (line.adjacent column .wordLeft ∪ line.adjacent column .wordRight = line.inputs ↔
      ¬ line.OddBehindFeather column) := by
  have hline := expressible_of_parse h
  have hslot := snap_eq_self_iff.mp hsnap
  have hright := hline.adjacent_wordRight hboundary hslot
  have hparity := hline.oddBehindFeather_iff hboundary hslot
  have heven : ¬ line.OddBehindFeather column →
      line.adjacent column .wordLeft = line.inputsAt (· ≤ column) := by
    intro hodd
    rw [hparity] at hodd
    exact hline.adjacent_wordLeft_of_even (by omega)
  have hempty : line.OddBehindFeather column → line.adjacent column .wordLeft = ∅ := by
    intro hodd
    exact hline.adjacent_wordLeft_of_odd (hparity.mp hodd)
  refine ⟨hright, ⟨?_, heven⟩, hempty, ?_, ⟨?_, ?_⟩⟩
  · rintro hleft ⟨edge, hedge, hlt, hodd⟩
    have hfeather : Input.feather ∈ line.inputsAt (· ≤ column) :=
      mem_inputsAt.mpr ⟨edge, hedge, decide_eq_true (Nat.le_of_lt hlt)⟩
    rw [← hleft, hempty ⟨edge, hedge, hlt, hodd⟩] at hfeather
    exact InputSet.not_mem_empty _ hfeather
  · rw [hright, hline.adjacent_eq]
    refine inputsAt_inter_eq_empty fun edge hlooks hlt => ?_
    simp only [looksAt, Bool.and_eq_true, decide_eq_true_eq] at hlooks hlt
    omega
  · rintro hunion ⟨edge, hedge, hlt, hodd⟩
    have hfeather : Input.feather ∈ line.inputs := mem_inputs_iff_edge.mpr ⟨edge, hedge⟩
    rw [← hunion, hempty ⟨edge, hedge, hlt, hodd⟩, hright, InputSet.mem_union, mem_inputsAt]
      at hfeather
    rcases hfeather with hnone | ⟨_, hsame, hbeyond⟩
    · exact InputSet.not_mem_empty _ hnone
    · rw [hedge] at hsame
      cases hsame
      exact Nat.lt_asymm hlt (of_decide_eq_true hbeyond)
  · intro hodd
    rw [heven hodd, hright]
    refine inputsAt_union_eq_inputs hline.known fun edge => ?_
    simp only [decide_eq_true_eq]
    exact (Nat.lt_or_ge column edge).symm

/-- In an angle, two columns behind feather, a movement to the left sees all inputs. -/
theorem word_lookup_splits_in_angle :
    ∃ line, parse 4 "   1,R,F,4.5".toList = .ok line ∧ line.boundary ≤ 11 ∧ line.snap 11 = 11 ∧
      line.adjacent 11 .wordLeft = line.inputsAt (· ≤ 11) ∧
      line.adjacent 11 .wordLeft ∪ line.adjacent 11 .wordRight = line.inputs := by
  have hfacts : (parse? 4 "   1,R,F,4.5".toList).any (fun line =>
      line.boundary ≤ 11 ∧ line.snap 11 = 11 ∧ line.edgeOf? .feather = some 9) = true := by
    decide +kernel
  obtain ⟨line, hread, hline⟩ := Option.any_eq_true _ _ |>.mp hfacts
  obtain ⟨hboundary, hsnap, hedge⟩ := of_decide_eq_true hline
  have hparse := parse?_eq_some_iff.mp hread
  have heven : ¬ line.OddBehindFeather 11 := by
    rintro ⟨edge, hfeather, -, hodd⟩
    rw [hedge] at hfeather
    cases hfeather
    exact absurd hodd (by decide)
  obtain ⟨-, hleft, -, -, hunion⟩ := word_lookup_splits_iff hparse hboundary hsnap
  exact ⟨line, hparse, hboundary, hsnap, hleft.mpr heven, hunion.mpr heven⟩

/-- One column behind feather a movement to the left sees no input, although the edge of feather is
not beyond the column; so none of the inputs of the line is seen on either side. -/
theorem word_lookup_misses_feather :
    ∃ line, parse 4 "   1,F,90".toList = .ok line ∧ line.boundary ≤ 8 ∧ line.snap 8 = 8 ∧
      line.inputsAt (· ≤ 8) = .single .feather ∧ line.adjacent 8 .wordLeft = ∅ ∧
      line.adjacent 8 .wordLeft ≠ line.inputsAt (· ≤ 8) ∧
      line.adjacent 8 .wordLeft ∪ line.adjacent 8 .wordRight ≠ line.inputs := by
  have hfacts : (parse? 4 "   1,F,90".toList).any (fun line =>
      line.boundary ≤ 8 ∧ line.snap 8 = 8 ∧ line.inputsAt (· ≤ 8) = .single .feather ∧
        line.adjacent 8 .wordLeft = ∅ ∧ line.adjacent 8 .wordLeft ≠ line.inputsAt (· ≤ 8) ∧
        line.adjacent 8 .wordLeft ∪ line.adjacent 8 .wordRight ≠ line.inputs) = true := by
    decide +kernel
  obtain ⟨line, hread, hline⟩ := Option.any_eq_true _ _ |>.mp hfacts
  exact ⟨line, parse?_eq_some_iff.mp hread, of_decide_eq_true hline⟩

end ActionLine

end FrameScript
