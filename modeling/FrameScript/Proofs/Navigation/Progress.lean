import FrameScript.Proofs.Navigation.Payload
import FrameScript.Proofs.Navigation.PlainText
import FrameScript.Proofs.Navigation.SlotWalk
import Mathlib.Logic.Function.Iterate
import Mathlib.Order.RelClasses

/-!
# Steps to the side make progress

A step by character or by word leads to another stop of the document on the side it is named for,
and stays only at the last stop there is on that side. On an action line this has to survive the
landing: what the rules give is moved into the line and snapped to the right, which could take a
step to the left back. It does not, because the rules send the caret to a slot or, from the
payload, to where columns are no longer snapped beyond the caret.

Since no step is in vain, repeating one leads to the end of the document, and there the caret
stays.

## Main definitions

* `Navigation.Rests` — a position where the caret may rest, whatever its hints
* `Navigation.RestsIn` — the caret rests on a line that is no action line
* `Navigation.IsFirstStop`, `Navigation.IsLastStop` — the two ends of the document
* `Navigation.Advances`, `Navigation.Recedes` — a step that makes progress or is at the end
* `Navigation.after` — the caret after a movement

## Main results

* `Navigation.rests_iff` — resting positions are those at a stop of their line
* `Navigation.exists_advance`, `Navigation.exists_recede` — one step
* `Navigation.steps_progress` — one step, and a run of them
-/

namespace FrameScript

namespace Navigation

variable {nav : Navigation} {caret : Caret} {m : Movement} {action : ActionLine} {raw : Text}
  {p q : Position} {column : Nat}

/-! ### Where the caret rests -/

/-- The caret may rest at the position: its line is there, its column can be reached on it, and on
an action line it is not moved by snapping. -/
def Rests (nav : Navigation) (p : Position) : Prop :=
  ∃ raw, nav.reader.line? p.line = some raw ∧
    match ActionLine.parse? nav.frameColumns raw with
    | some action => (1 ≤ p.column ∧ p.column ≤ reach action raw) ∧ action.snap p.column = p.column
    | none => 1 ≤ p.column ∧ p.column ≤ raw.endColumn

instance (nav : Navigation) (p : Position) : Decidable (nav.Rests p) :=
  decidable_of_iff ((nav.reader.line? p.line).any fun raw =>
    match ActionLine.parse? nav.frameColumns raw with
    | some action =>
      ((1 ≤ p.column ∧ p.column ≤ reach action raw) ∧ action.snap p.column = p.column : Bool)
    | none => (1 ≤ p.column ∧ p.column ≤ raw.endColumn : Bool)) <| by
      rw [Option.any_eq_true, Rests]
      refine exists_congr fun raw => and_congr_right fun _ => ?_
      cases ActionLine.parse? nav.frameColumns raw with
      | some action => exact decide_eq_true_iff
      | none => exact decide_eq_true_iff

/-- The slots of a line are the columns that snapping leaves where they are. -/
theorem mem_slots_iff_snap (h : action.Expressible) :
    column ∈ slots action raw ↔
      (1 ≤ column ∧ column ≤ reach action raw) ∧ action.snap column = column := by
  constructor
  · intro hcolumn
    exact ⟨le_reach_of_mem_slots h hcolumn,
      ActionLine.snap_eq_self_iff.mpr (isSlot_of_mem_slots h hcolumn)⟩
  · rintro ⟨hbounds, hsnap⟩
    rw [mem_slots_iff h]
    exact (h.isSlot_iff.mp (ActionLine.snap_eq_self_iff.mp hsnap)).imp_right
      (Or.imp_right fun hpayload => ⟨hpayload.1, hpayload.2, hbounds.2⟩)

/-- The caret rests at the stops of the document. -/
theorem rests_iff : nav.Rests p ↔ p.column ∈ nav.stops p.line := by
  refine exists_congr fun raw => and_congr_right fun _ => ?_
  cases hparse : ActionLine.parse? nav.frameColumns raw with
  | none => exact Iff.rfl
  | some action => exact (mem_slots_iff_snap (ActionLine.expressible_of_parse? hparse)).symm

theorem Settled.rests (h : nav.Settled p) : nav.Rests p := by
  obtain ⟨raw, hraw, haction, htext⟩ := h.within
  refine ⟨raw, hraw, ?_⟩
  cases hparse : ActionLine.parse? nav.frameColumns raw with
  | none => exact htext hparse
  | some action => exact ⟨(haction action hparse).1, (haction action hparse).2.1⟩

theorem Rests.line_le (h : nav.Rests p) (hreader : nav.reader.IsFaithful) :
    1 ≤ p.line ∧ p.line ≤ nav.reader.lineCount := by
  obtain ⟨raw, hraw, -⟩ := h
  exact (hreader p.line).mp ⟨raw, hraw⟩

/-! ### The ends of the document -/

/-- The first stop of the first line. -/
def IsFirstStop (nav : Navigation) (p : Position) : Prop :=
  p.line = 1 ∧ IsLeast (nav.stops p.line) p.column

/-- The last stop of the last line. -/
def IsLastStop (nav : Navigation) (p : Position) : Prop :=
  p.line = nav.reader.lineCount ∧ IsGreatest (nav.stops p.line) p.column

theorem IsFirstStop.of_sameSlot (h : nav.IsFirstStop p) (hq : q.sameSlot p = true) :
    nav.IsFirstStop q := by
  rw [Position.sameSlot_iff] at hq
  rw [IsFirstStop, hq.1, hq.2]
  exact h

theorem IsLastStop.of_sameSlot (h : nav.IsLastStop p) (hq : q.sameSlot p = true) :
    nav.IsLastStop q := by
  rw [Position.sameSlot_iff] at hq
  rw [IsLastStop, hq.1, hq.2]
  exact h

theorem IsFirstStop.not_lt (h : nav.IsFirstStop p) (hreader : nav.reader.IsFaithful)
    (hq : nav.Rests q) : ¬ q < p := by
  have hline := hq.line_le hreader
  rw [rests_iff] at hq
  rw [Position.lt_iff]
  rintro (hlt | ⟨heq, hlt⟩)
  · exact absurd h.1 (by omega)
  · rw [heq] at hq
    exact absurd (h.2.2 hq) (Nat.not_le.mpr hlt)

theorem IsLastStop.not_lt (h : nav.IsLastStop p) (hreader : nav.reader.IsFaithful)
    (hq : nav.Rests q) : ¬ p < q := by
  have hline := hq.line_le hreader
  rw [rests_iff] at hq
  rw [Position.lt_iff]
  rintro (hlt | ⟨heq, hlt⟩)
  · exact absurd h.1 (by omega)
  · rw [← heq] at hq
    exact absurd (h.2.2 hq) (Nat.not_le.mpr hlt)

/-- A step that leads to a later stop, or from the last stop to itself. -/
def Advances (nav : Navigation) (p q : Position) : Prop :=
  p < q ∨ nav.IsLastStop p ∧ q.sameSlot p = true

/-- A step that leads to an earlier stop, or from the first stop to itself. -/
def Recedes (nav : Navigation) (p q : Position) : Prop :=
  q < p ∨ nav.IsFirstStop p ∧ q.sameSlot p = true

/-! ### Steps on an action line -/

/-- Snapping leads to the right, so a step to the right is not taken back by it. -/
theorem lt_landingSlot (h : action.Expressible) (hlast : column < lastSlot action raw) {next : Nat}
    (hnext : column < next) : column < landingSlot action raw next := by
  have horder := edges_in_order h raw
  rw [lastSlot_eq h] at hlast
  rw [landingSlot, h.snap_eq]
  by_cases hfeather : Input.feather ∈ action.inputs
  · rw [if_pos hfeather] at hlast
    simp only [hfeather, if_true]
    split
    · omega
    · split <;> omega
  · rw [if_neg hfeather] at hlast
    simp only [hfeather, if_false]
    split
    · omega
    · split <;> omega

/-- Snapping leads beyond the last edge only what is there already. -/
theorem landingSlot_lt (h : action.Expressible) (hlast : action.lastEdge < column) {next : Nat}
    (hnext : next < column) : landingSlot action raw next < column := by
  have hone := ActionLine.one_le_firstDigit action
  have horder := edges_in_order h raw
  have hsnap : landingSlot action raw next ≤ column - 1 := h.snap_le (by omega) (by omega)
  omega

/-- What the rules give for a step to the right. -/
theorem exists_toColumn_of_isRightward (h : action.Expressible) (raw : Text) (p : Position)
    (hslot : action.IsSlot p.column)
    (hm : m.isRightward = true) :
    ∃ next, decideWithin action raw p m = .toColumn next ∧
      (p.column < next ∨ lastSlot action raw ≤ next) := by
  rcases Movement.isRightward_iff.mp hm with rfl | rfl
  · refine ⟨_, decideWithin_charRight h hslot, Or.inl ?_⟩
    rw [rightOf]
    split <;> omega
  · rcases h.region_cases hslot with ⟨hregion, hlt⟩ | ⟨hregion, -⟩ | ⟨hregion, -⟩ |
      ⟨hregion, -⟩ | ⟨hregion, -⟩
    · exact ⟨action.boundary, by simp only [decideWithin, hregion], Or.inl hlt⟩
    · exact ⟨lastSlot action raw, by simp only [decideWithin, hregion], Or.inr (Nat.le_refl _)⟩
    · exact ⟨lastSlot action raw, by simp only [decideWithin, hregion], Or.inr (Nat.le_refl _)⟩
    · exact ⟨p.column + 1, by simp only [decideWithin, hregion], Or.inl (Nat.lt_add_one _)⟩
    · exact ⟨Payload.step raw p.column .wordRight, by simp only [decideWithin, hregion],
        Or.inl (Payload.lt_step (Or.inr rfl))⟩

/-- What the rules give for a step to the left: a slot, unless the caret is in the payload. -/
theorem exists_toColumn_of_isLeftward (h : action.Expressible) (p : Position)
    (hcolumn : p.column ∈ slots action raw) (hm : m.isLeftward = true) :
    ∃ next, decideWithin action raw p m = .toColumn next ∧
      (next ≤ action.firstDigit ∨
        next < p.column ∧ (next ∈ slots action raw ∨ action.lastEdge < p.column)) := by
  have hslot := isSlot_of_mem_slots h hcolumn
  have hchar : ∀ m, m = .charLeft ∨ m = .backspace → ∃ next,
      decideWithin action raw p m = .toColumn next ∧ (next ≤ action.firstDigit ∨
        next < p.column ∧ (next ∈ slots action raw ∨ action.lastEdge < p.column)) := by
    intro m hm
    refine ⟨_, decideWithin_charLeft h hslot hm, ?_⟩
    rcases Nat.lt_or_ge action.firstDigit p.column with hfirst | hfirst
    · have hnext := (isGreatest_leftOf h hcolumn hfirst).1
      exact Or.inr ⟨hnext.2, Or.inl hnext.1⟩
    · refine Or.inl (Nat.le_trans ?_ hfirst)
      rw [leftOf]
      split <;> omega
  rcases Movement.isLeftward_iff.mp hm with rfl | rfl | rfl
  · exact hchar _ (Or.inl rfl)
  · have horder := edges_in_order h raw
    have hboundary : action.boundary ∈ slots action raw := by
      rw [mem_slots_iff h]
      omega
    rcases h.region_cases hslot with ⟨hregion, -⟩ | ⟨hregion, -⟩ | ⟨hregion, hlt, -⟩ |
      ⟨hregion, -, hlt, -⟩ | ⟨hregion, -, hlt⟩
    · exact ⟨action.firstDigit, by simp only [decideWithin, hregion], Or.inl (Nat.le_refl _)⟩
    · exact ⟨action.firstDigit, by simp only [decideWithin, hregion], Or.inl (Nat.le_refl _)⟩
    · exact ⟨action.boundary, by simp only [decideWithin, hregion],
        Or.inr ⟨hlt, Or.inl hboundary⟩⟩
    · exact ⟨action.boundary, by simp only [decideWithin, hregion],
        Or.inr ⟨hlt, Or.inl hboundary⟩⟩
    · refine ⟨Payload.step raw p.column .wordLeft, by simp only [decideWithin, hregion],
        Or.inr ⟨Payload.step_lt ?_ (Or.inr rfl), Or.inr hlt⟩⟩
      omega
  · exact hchar _ (Or.inr rfl)

theorem RestsOn.exists_advance (h : nav.RestsOn caret action raw)
    (hreader : nav.reader.IsFaithful) (hm : m.isRightward = true) :
    ∃ q, (nav.move caret m).1 = .ok q ∧ nav.Advances caret.position q := by
  have haction := h.expressible
  have hgreatest := isGreatest_lastSlot haction raw
  obtain ⟨next, hrule, hnext⟩ := exists_toColumn_of_isRightward haction raw
    caret.position.rehint (isSlot_of_mem_slots haction h.slot) hm
  rcases h.move_of_isRightward hreader hm hrule with
    ⟨hlast, hmove⟩ | ⟨hlast, hmore, first, hmove, -⟩ | ⟨hlast, hend, hmove⟩
  · have hlt : caret.position.column < next := hnext.elim id (Nat.lt_of_lt_of_le hlast)
    exact ⟨_, hmove, Or.inl (Or.inr ⟨rfl, lt_landingSlot haction hlast hlt⟩)⟩
  · exact ⟨_, hmove, Or.inl (Or.inl (Nat.lt_add_one _))⟩
  · have hbeyond : lastSlot action raw ≤ next :=
      hnext.elim (fun hlt => hlast ▸ Nat.le_of_lt hlt) id
    refine ⟨_, hmove, Or.inr ⟨⟨?_, ?_⟩, ?_⟩⟩
    · exact Nat.le_antisymm (h.bounds hreader).2 hend
    · rw [h.stops_eq, hlast]
      exact hgreatest
    · rw [landingSlot_of_lastSlot_le haction hbeyond, ← hlast, Position.sameSlot_iff]
      exact ⟨rfl, rfl⟩

theorem RestsOn.exists_recede (h : nav.RestsOn caret action raw)
    (hreader : nav.reader.IsFaithful) (hm : m.isLeftward = true) :
    ∃ q, (nav.move caret m).1 = .ok q ∧ nav.Recedes caret.position q := by
  have haction := h.expressible
  have hleast := isLeast_firstDigit haction raw
  obtain ⟨next, hrule, hnext⟩ := exists_toColumn_of_isLeftward haction
    caret.position.rehint h.slot hm
  rcases h.move_of_isLeftward hreader hm hrule with
    ⟨hfirst, hmove⟩ | ⟨hfirst, hmore, last, hmove, -⟩ | ⟨hfirst, hend, hmove⟩
  · refine ⟨_, hmove, Or.inl (Or.inr ⟨rfl, ?_⟩)⟩
    rcases hnext with hle | ⟨hlt, hmem | hlast⟩
    · rw [Position.column_of, landingSlot_of_le_firstDigit haction raw hle]
      exact hfirst
    · rw [Position.column_of, landingSlot_of_mem haction hmem]
      exact hlt
    · exact landingSlot_lt haction hlast hlt
  · exact ⟨_, hmove, Or.inl (Or.inl (Nat.sub_lt (Nat.lt_of_succ_lt hmore) Nat.one_pos))⟩
  · have hbefore : next ≤ action.firstDigit :=
      hnext.elim id fun hlt => hfirst ▸ Nat.le_of_lt hlt.1
    refine ⟨_, hmove, Or.inr ⟨⟨?_, ?_⟩, ?_⟩⟩
    · exact Nat.le_antisymm hend (h.bounds hreader).1
    · rw [h.stops_eq, hfirst]
      exact hleast
    · rw [landingSlot_of_le_firstDigit haction raw hbefore, ← hfirst, Position.sameSlot_iff]
      exact ⟨rfl, rfl⟩

/-! ### Steps on other lines -/

/-- The caret rests on a line that is no action line. -/
structure RestsIn (nav : Navigation) (caret : Caret) (raw : Text) : Prop where
  line : nav.reader.line? caret.position.line = some raw
  notAction : ActionLine.parse? nav.frameColumns raw = none
  column : 1 ≤ caret.position.column ∧ caret.position.column ≤ raw.endColumn

namespace RestsIn

variable {pageLines : Nat}

theorem stops_eq (h : nav.RestsIn caret raw) :
    nav.stops caret.position.line = {column | 1 ≤ column ∧ column ≤ raw.endColumn} :=
  stops_of_text h.line h.notAction

theorem isGreatest_endColumn (h : nav.RestsIn caret raw) :
    IsGreatest (nav.stops caret.position.line) raw.endColumn := by
  rw [h.stops_eq]
  exact ⟨⟨Nat.le_add_left .., Nat.le_refl _⟩, fun c hc => hc.2⟩

theorem isLeast_one (h : nav.RestsIn caret raw) :
    IsLeast (nav.stops caret.position.line) 1 := by
  rw [h.stops_eq]
  exact ⟨⟨Nat.le_refl 1, Nat.le_add_left ..⟩, fun c hc => hc.1⟩

/-- The caret lands where the mover of plain text sends it. -/
theorem move_eq_ok (h : nav.RestsIn caret raw) (hmover : nav.text = PlainText.mover pageLines)
    (hm : m.isVertical = false) {target : Position}
    (htarget : PlainText.moveHorizontally nav.reader caret.position m = .ok target)
    (hland : nav.land target false = .ok q) : (nav.move caret m).1 = .ok q := by
  refine move_eq_ok_iff.mpr ⟨⟨target, false, none⟩, ?_, hland⟩
  simp only [destination_of_text h.line h.notAction, handOver, hmover, PlainText.mover, hm,
    Bool.false_eq_true, if_false, htarget]
  rfl

theorem exists_advance (h : nav.RestsIn caret raw) (hmover : nav.text = PlainText.mover pageLines)
    (hreader : nav.reader.IsFaithful) (hm : m.isRightward = true) :
    ∃ q, (nav.move caret m).1 = .ok q ∧ nav.Advances caret.position q := by
  have hline := (hreader _).mp ⟨raw, h.line⟩
  have hvertical : m.isVertical = false := by
    rcases Movement.isRightward_iff.mp hm with rfl | rfl <;> rfl
  obtain ⟨stop, hmove, hsome, hnone⟩ :=
    PlainText.moveHorizontally_of_isRightward h.line h.column hm
  cases stop with
  | some column =>
    -- within the line
    have hstop : caret.position.column < column ∧ column ≤ raw.endColumn := hsome column rfl
    have hmem : column ∈ nav.stops caret.position.line := by
      rw [h.stops_eq]
      exact ⟨by omega, hstop.2⟩
    exact ⟨_, h.move_eq_ok hmover hvertical hmove (land_of_mem_stops hreader hmem false),
      Or.inl (Or.inr ⟨rfl, hstop.1⟩)⟩
  | none =>
    rcases Nat.lt_or_ge caret.position.line nav.reader.lineCount with hmore | hend
    · -- over the end of the line
      obtain ⟨below, hbelow⟩ :=
        (hreader _).mpr ⟨Nat.le_add_left 1 caret.position.line, hmore⟩
      obtain ⟨first, hland, -⟩ :=
        exists_land_first hreader ⟨Nat.le_add_left 1 caret.position.line, hmore⟩ false
      rw [PlainText.rightTo, if_neg (Nat.not_le.mpr hmore),
        PlainText.readLine_eq_ok_iff.mpr hbelow] at hmove
      exact ⟨_, h.move_eq_ok hmover hvertical hmove hland, Or.inl (Or.inl (Nat.lt_add_one _))⟩
    · -- at the end of the document
      have hgreatest := h.isGreatest_endColumn
      rw [PlainText.rightTo, if_pos hend, PlainText.readLine_eq_ok_iff.mpr h.line] at hmove
      refine ⟨_, h.move_eq_ok hmover hvertical hmove
        (land_of_mem_stops hreader hgreatest.1 false), Or.inr ⟨⟨?_, ?_⟩, ?_⟩⟩
      · exact Nat.le_antisymm hline.2 hend
      · rw [hnone rfl]
        exact hgreatest
      · rw [Position.sameSlot_iff, hnone rfl]
        exact ⟨rfl, rfl⟩

theorem exists_recede (h : nav.RestsIn caret raw) (hmover : nav.text = PlainText.mover pageLines)
    (hreader : nav.reader.IsFaithful) (hm : m.isLeftward = true) :
    ∃ q, (nav.move caret m).1 = .ok q ∧ nav.Recedes caret.position q := by
  have hline := (hreader _).mp ⟨raw, h.line⟩
  have hvertical : m.isVertical = false := by
    rcases Movement.isLeftward_iff.mp hm with rfl | rfl | rfl <;> rfl
  obtain ⟨stop, hmove, hsome, hnone⟩ :=
    PlainText.moveHorizontally_of_isLeftward h.line h.column hm
  cases stop with
  | some column =>
    -- within the line
    have hstop : 1 ≤ column ∧ column < caret.position.column := hsome column rfl
    have hmem : column ∈ nav.stops caret.position.line := by
      rw [h.stops_eq]
      exact ⟨hstop.1, Nat.le_trans (Nat.le_of_lt hstop.2) h.column.2⟩
    exact ⟨_, h.move_eq_ok hmover hvertical hmove (land_of_mem_stops hreader hmem false),
      Or.inl (Or.inr ⟨rfl, hstop.2⟩)⟩
  | none =>
    rcases Nat.lt_or_ge 1 caret.position.line with hmore | hend
    · -- over the start of the line; the end of the text above need not be its last stop
      obtain ⟨above, habove⟩ := (hreader (caret.position.line - 1)).mpr (by omega)
      obtain ⟨q, hland, hq⟩ := exists_land hreader (Nat.le_trans hline.1 hline.2)
        (.of (caret.position.line - 1) above.endColumn) false
      rw [PlainText.leftTo, if_neg (Nat.not_le.mpr hmore),
        PlainText.readLine_eq_ok_iff.mpr habove] at hmove
      refine ⟨q, h.move_eq_ok hmover hvertical hmove hland, Or.inl (Or.inl ?_)⟩
      rw [hq, Position.line_of, landingLine_of_faithful hreader habove]
      omega
    · -- at the start of the document
      have hfirst : caret.position.line = 1 := Nat.le_antisymm hend hline.1
      have hleast := h.isLeast_one
      have hland := land_of_mem_stops hreader hleast.1 false
      rw [PlainText.leftTo, if_pos hend] at hmove
      rw [hfirst] at hland
      refine ⟨_, h.move_eq_ok hmover hvertical hmove hland, Or.inr ⟨⟨hfirst, ?_⟩, ?_⟩⟩
      · rw [hnone rfl]
        exact hleast
      · rw [Position.sameSlot_iff, hfirst, hnone rfl]
        exact ⟨rfl, rfl⟩

end RestsIn

/-! ### Steps from wherever the caret rests -/

theorem Rests.cases (h : nav.Rests caret.position) :
    (∃ action raw, nav.RestsOn caret action raw) ∨ ∃ raw, nav.RestsIn caret raw := by
  obtain ⟨raw, hraw, hcolumn⟩ := id h
  cases hparse : ActionLine.parse? nav.frameColumns raw with
  | some action =>
    rw [rests_iff, stops_of_action hraw hparse] at h
    exact Or.inl ⟨action, raw, hraw, hparse, h⟩
  | none =>
    rw [hparse] at hcolumn
    exact Or.inr ⟨raw, hraw, hparse, hcolumn⟩

section Steps

variable {pageLines : Nat} (hmover : nav.text = PlainText.mover pageLines)
  (hreader : nav.reader.IsFaithful)

include hmover hreader

/-- **A step to the right** leads to a later stop; only at the last one the caret stays. -/
theorem exists_advance (h : nav.Rests caret.position) (hm : m.isRightward = true) :
    ∃ q, (nav.move caret m).1 = .ok q ∧ nav.Rests q ∧
      (nav.IsLastStop caret.position → q.sameSlot caret.position = true) ∧
      (¬ nav.IsLastStop caret.position → caret.position < q) := by
  have hstep : ∃ q, (nav.move caret m).1 = .ok q ∧ nav.Advances caret.position q := by
    rcases h.cases with ⟨action, raw, hrests⟩ | ⟨raw, hrests⟩
    · exact hrests.exists_advance hreader hm
    · exact hrests.exists_advance hmover hreader hm
  obtain ⟨q, hmove, hadvance⟩ := hstep
  have hq : nav.Rests q := (settled_of_move nav caret m q hmove).rests
  refine ⟨q, hmove, hq, fun hlast => ?_, fun hlast => ?_⟩
  · exact hadvance.elim (fun hlt => absurd hlt (hlast.not_lt hreader hq)) And.right
  · exact hadvance.elim id fun hstay => absurd hstay.1 hlast

/-- **A step to the left** leads to an earlier stop; only at the first one the caret stays. -/
theorem exists_recede (h : nav.Rests caret.position) (hm : m.isLeftward = true) :
    ∃ q, (nav.move caret m).1 = .ok q ∧ nav.Rests q ∧
      (nav.IsFirstStop caret.position → q.sameSlot caret.position = true) ∧
      (¬ nav.IsFirstStop caret.position → q < caret.position) := by
  have hstep : ∃ q, (nav.move caret m).1 = .ok q ∧ nav.Recedes caret.position q := by
    rcases h.cases with ⟨action, raw, hrests⟩ | ⟨raw, hrests⟩
    · exact hrests.exists_recede hreader hm
    · exact hrests.exists_recede hmover hreader hm
  obtain ⟨q, hmove, hrecede⟩ := hstep
  have hq : nav.Rests q := (settled_of_move nav caret m q hmove).rests
  refine ⟨q, hmove, hq, fun hfirst => ?_, fun hfirst => ?_⟩
  · exact hrecede.elim (fun hlt => absurd hlt (hfirst.not_lt hreader hq)) And.right
  · exact hrecede.elim id fun hstay => absurd hstay.1 hfirst

end Steps

/-! ### Runs -/

/-- The caret after a movement. -/
def after (nav : Navigation) (m : Movement) (caret : Caret) : Caret := (nav.move caret m).2

section Runs

variable (hrests : ∀ caret, nav.Rests caret.position → nav.Rests (nav.after m caret).position)
  (h : nav.Rests caret.position)

include hrests h

theorem rests_iterate (k : Nat) : nav.Rests ((nav.after m)^[k] caret).position := by
  induction k with
  | zero => exact h
  | succ k ih =>
    rw [Function.iterate_succ_apply']
    exact hrests _ ih

/-- A movement from stop to stop that comes nearer to a goal until it is there, and then keeps it,
leads to the goal. -/
theorem exists_reaches {goal : Position → Prop} {nearer : Position → Position → Prop}
    (hwf : WellFounded nearer)
    (hnearer : ∀ caret, nav.Rests caret.position → ¬ goal caret.position →
      nearer (nav.after m caret).position caret.position)
    (hkeep : ∀ caret, nav.Rests caret.position → goal caret.position →
      goal (nav.after m caret).position) :
    ∃ n, ∀ k, n ≤ k → goal ((nav.after m)^[k] caret).position := by
  obtain ⟨n, hn⟩ : ∃ n, goal ((nav.after m)^[n] caret).position := by
    generalize hp : caret.position = p
    induction p using hwf.induction generalizing caret with
    | _ p ih =>
      by_cases hgoal : goal caret.position
      · exact ⟨0, hgoal⟩
      · have hnear := hnearer caret h hgoal
        rw [hp] at hnear
        obtain ⟨n, hn⟩ := ih _ hnear (hrests caret h) rfl
        exact ⟨n + 1, hn⟩
  refine ⟨n, fun k hk => ?_⟩
  induction k, hk using Nat.le_induction with
  | base => exact hn
  | succ k hk ih =>
    rw [Function.iterate_succ_apply']
    exact hkeep _ (rests_iterate hrests h k) ih

end Runs

/-- The lines and columns that lie between a stop and the end of the document. -/
def ahead (nav : Navigation) (p : Position) : Nat × Nat :=
  (nav.reader.lineCount - p.line, (nav.lastSlotOf p.line).toOption.getD 0 - p.column)

/-- A later stop has less ahead. -/
theorem ahead_lt (hreader : nav.reader.IsFaithful) (hq : nav.Rests q) (hlt : p < q) :
    Prod.Lex (· < ·) (· < ·) (nav.ahead q) (nav.ahead p) := by
  have hline := hq.line_le hreader
  obtain ⟨last, hlast, hgreatest⟩ := exists_lastSlotOf hreader hline
  have hcolumn : q.column ≤ last := hgreatest.2 (rests_iff.mp hq)
  rw [Prod.lex_def, ahead, ahead]
  rcases Position.lt_iff.mp hlt with hbelow | ⟨hsame, hright⟩
  · exact Or.inl (by omega)
  · rw [hsame, hlast]
    exact Or.inr ⟨rfl, show last - q.column < last - p.column by omega⟩

section Ends

variable {pageLines : Nat} (hmover : nav.text = PlainText.mover pageLines)
  (hreader : nav.reader.IsFaithful) (h : nav.Rests caret.position)

include hmover hreader h

/-- Steps to the right lead to the last stop. -/
theorem exists_reaches_lastStop (hm : m.isRightward = true) :
    ∃ n, ∀ k, n ≤ k → nav.IsLastStop ((nav.after m)^[k] caret).position := by
  have hstep : ∀ caret, nav.Rests caret.position → nav.Rests (nav.after m caret).position ∧
      (nav.IsLastStop caret.position →
        (nav.after m caret).position.sameSlot caret.position = true) ∧
      (¬ nav.IsLastStop caret.position → caret.position < (nav.after m caret).position) := by
    intro caret h
    obtain ⟨q, hmove, hq⟩ := exists_advance hmover hreader h hm
    rwa [after, position_of_move hmove]
  have hwf : WellFounded (InvImage (Prod.Lex (· < ·) (· < ·)) nav.ahead) :=
    InvImage.wf _ (wellFounded_lt.prod_lex wellFounded_lt)
  refine exists_reaches (fun caret h => (hstep caret h).1) h hwf ?_ ?_
  · intro caret h hlast
    exact ahead_lt hreader (hstep caret h).1 ((hstep caret h).2.2 hlast)
  · intro caret h hlast
    exact hlast.of_sameSlot ((hstep caret h).2.1 hlast)

/-- Steps to the left lead to the first stop. -/
theorem exists_reaches_firstStop (hm : m.isLeftward = true) :
    ∃ n, ∀ k, n ≤ k → nav.IsFirstStop ((nav.after m)^[k] caret).position := by
  have hstep : ∀ caret, nav.Rests caret.position → nav.Rests (nav.after m caret).position ∧
      (nav.IsFirstStop caret.position →
        (nav.after m caret).position.sameSlot caret.position = true) ∧
      (¬ nav.IsFirstStop caret.position → (nav.after m caret).position < caret.position) := by
    intro caret h
    obtain ⟨q, hmove, hq⟩ := exists_recede hmover hreader h hm
    rwa [after, position_of_move hmove]
  have hwf : WellFounded (InvImage (Prod.Lex (· < ·) (· < ·))
      fun p : Position => (p.line, p.column)) :=
    InvImage.wf _ (wellFounded_lt.prod_lex wellFounded_lt)
  refine exists_reaches (fun caret h => (hstep caret h).1) h hwf ?_ ?_
  · intro caret h hfirst
    exact Prod.lex_def.mpr ((hstep caret h).2.2 hfirst)
  · intro caret h hfirst
    exact hfirst.of_sameSlot ((hstep caret h).2.1 hfirst)

end Ends

/-- **Steps make progress.** From wherever the caret rests in a document, a step to the right leads
to a later position unless the caret is at the last stop of the last line, where it stays, and a
step to the left or a backspace leads to an earlier one unless it is at the first stop of line 1.
So each of them, repeated, leads to that end of the document and stays there. -/
theorem steps_progress {doc : Document} {pageLines : Nat} (hdoc : nav.reader = doc.reader)
    (hmover : nav.text = PlainText.mover pageLines) (h : nav.Rests caret.position) :
    (∀ m, m = .charRight ∨ m = .wordRight →
      (∃ q, (nav.move caret m).1 = .ok q ∧ nav.Rests q ∧
        (nav.IsLastStop caret.position → q.sameSlot caret.position = true) ∧
        (¬ nav.IsLastStop caret.position → caret.position < q)) ∧
      ∃ n, ∀ k, n ≤ k → nav.IsLastStop ((nav.after m)^[k] caret).position) ∧
    ∀ m, m = .charLeft ∨ m = .wordLeft ∨ m = .backspace →
      (∃ q, (nav.move caret m).1 = .ok q ∧ nav.Rests q ∧
        (nav.IsFirstStop caret.position → q.sameSlot caret.position = true) ∧
        (¬ nav.IsFirstStop caret.position → q < caret.position)) ∧
      ∃ n, ∀ k, n ≤ k → nav.IsFirstStop ((nav.after m)^[k] caret).position := by
  have hreader : nav.reader.IsFaithful := hdoc ▸ doc.isFaithful_reader
  constructor
  · intro m hm
    have hright : m.isRightward = true := Movement.isRightward_iff.mpr hm
    exact ⟨exists_advance hmover hreader h hright,
      exists_reaches_lastStop hmover hreader h hright⟩
  · intro m hm
    have hleft : m.isLeftward = true := Movement.isLeftward_iff.mpr hm
    exact ⟨exists_recede hmover hreader h hleft, exists_reaches_firstStop hmover hreader h hleft⟩

/-- Beyond the text of a line that lacks its padding, a step by word does not stay. -/
theorem wordLeft_lt_of_beyond_text :
    (ofDocument (Document.ofText "15,F,4.5\nword".toList) 20 4).Rests (.of 1 11) ∧
      ∃ q, (move (ofDocument (Document.ofText "15,F,4.5\nword".toList) 20 4)
        (.placedAt (.of 1 11)) .wordLeft).1 = .ok q ∧ q < Position.of 1 11 := by
  have hrests : (ofDocument (Document.ofText "15,F,4.5\nword".toList) 20 4).Rests
      (Caret.placedAt (.of 1 11)).position := by
    decide +kernel
  have hfirst : (ofDocument (Document.ofText "15,F,4.5\nword".toList) 20 4).Rests (.of 1 3) := by
    decide +kernel
  obtain ⟨⟨q, hmove, -, -, hlt⟩, -⟩ :=
    (steps_progress rfl rfl hrests).2 .wordLeft (Or.inr (Or.inl rfl))
  refine ⟨hrests, q, hmove, hlt fun hleast => ?_⟩
  exact hleast.not_lt (Document.isFaithful_reader _) hfirst (by decide)

end Navigation

end FrameScript
