import FrameScript.Proofs.Navigation.Progress

/-!
# Over the start of a line

A step to the left from the first stop of a line leads to the line above, on one of two ways. From
an action line the rules send the caret to the last slot of the line above, which they look up.
From another line the mover of plain text sends it to the end of the text above, and landing moves
it to a slot if need be. The two agree unless the line above is an action line that is longer when
it is printed: then the slot after its last character can belong to an earlier slot than the last,
and the mover, which knows nothing of action lines, stops short.

## Main definitions

* `Navigation.EndsShort` — the end of the text of an action line does not belong to its last slot
* `Navigation.LineEndsShort` — a line of the document is such an action line

## Main results

* `Navigation.landingSlot_endColumn_lt_iff` — which lines end short
* `Navigation.exists_land_end` — where the end of a text lands
* `Navigation.RestsOn.wrap_left`, `Navigation.RestsIn.wrap_left` — the two ways
* `Navigation.wrap_left_to_last_iff` — where they agree, in every document
-/

namespace FrameScript

namespace Navigation

variable {nav : Navigation} {caret : Caret} {m : Movement} {action : ActionLine} {raw : Text}
  {line last : Nat}

/-! ### The end of the text of an action line -/

/-- The text of an action line is shorter than its canonical text, and by so much that the slot
after its last character does not belong to the last slot of the line. A single missing character
is made up for by snapping if the line ends with the letter of an input. -/
def EndsShort (action : ActionLine) (raw : Text) : Prop :=
  raw.length < action.textLength ∧
    (raw.length + 1 = action.textLength → action.tokenCount = 0 ∨ action.payload ≠ [])

/-- Whatever is landed on can be reached. -/
theorem landingSlot_mem_slots (h : action.Expressible) (raw : Text) (column : Nat) :
    landingSlot action raw column ∈ slots action raw :=
  (mem_slots_iff_snap h).mpr
    ⟨⟨action.one_le_snap _, landingSlot_le_reach h raw column⟩, action.snap_snap _⟩

/-- **The end of the text** belongs to the last slot unless the line ends short. -/
theorem landingSlot_endColumn_lt_iff (h : action.Expressible) (raw : Text) :
    landingSlot action raw raw.endColumn < lastSlot action raw ↔ EndsShort action raw := by
  have horder := edges_in_order h raw
  have hlength := h.textLength_eq
  have hboundary : action.boundary = action.width.columns + 1 := rfl
  have hreach : reach action raw = max raw.length action.textLength + 1 := rfl
  have hend : raw.endColumn = raw.length + 1 := rfl
  have hwithin : max 1 (min raw.endColumn (reach action raw)) = raw.length + 1 := by omega
  rw [landingSlot, hwithin, lastSlot_eq h, h.snap_eq, EndsShort, ne_eq, ← List.length_eq_zero_iff]
  by_cases hfeather : Input.feather ∈ action.inputs
  · have hlt := h.boundary_lt_lastEdge hfeather
    simp only [hfeather, if_true]
    split
    · omega
    · split <;> omega
  · have hpayload : action.payload.length = 0 :=
      List.length_eq_zero_iff.mpr (ActionLine.payload_eq_nil hfeather)
    simp only [hfeather, if_false]
    split
    · omega
    · split <;> omega

/-! ### The end of the text of a line -/

/-- The line is an action line that ends short. -/
def LineEndsShort (nav : Navigation) (line : Nat) : Prop :=
  ∃ raw action, nav.reader.line? line = some raw ∧
    ActionLine.parse? nav.frameColumns raw = some action ∧ EndsShort action raw

theorem lineEndsShort_iff (hraw : nav.reader.line? line = some raw)
    (hparse : ActionLine.parse? nav.frameColumns raw = some action) :
    nav.LineEndsShort line ↔ EndsShort action raw := by
  constructor
  · rintro ⟨raw', action', hraw', hparse', hshort⟩
    cases hraw.symm.trans hraw'
    cases hparse.symm.trans hparse'
    exact hshort
  · intro hshort
    exact ⟨raw, action, hraw, hparse, hshort⟩

theorem not_lineEndsShort (hraw : nav.reader.line? line = some raw)
    (htext : ActionLine.parse? nav.frameColumns raw = none) : ¬ nav.LineEndsShort line := by
  rintro ⟨raw', action', hraw', hparse', -⟩
  cases hraw.symm.trans hraw'
  cases htext.symm.trans hparse'

/-- **Whoever is sent to the end of the text** of a line lands on its last stop, unless the line
ends short. -/
theorem exists_land_end (hreader : nav.reader.IsFaithful)
    (hraw : nav.reader.line? line = some raw) (hlast : IsGreatest (nav.stops line) last)
    (byRule : Bool) :
    ∃ column, nav.land (.of line raw.endColumn) byRule = .ok (.of line column) ∧ column ≤ last ∧
      (column < last ↔ nav.LineEndsShort line) := by
  cases hparse : ActionLine.parse? nav.frameColumns raw with
  | some action =>
    have haction := ActionLine.expressible_of_parse? hparse
    have hline := landingLine_of_faithful hreader hraw
    rw [stops_of_action hraw hparse] at hlast
    refine ⟨landingSlot action raw raw.endColumn, ?_,
      hlast.2 (landingSlot_mem_slots haction raw _), ?_⟩
    · rw [land_of_action (by rwa [Position.line_of, hline]) hparse, Position.line_of,
        Position.column_of, hline]
    · rw [hlast.unique (isGreatest_lastSlot haction raw), landingSlot_endColumn_lt_iff haction raw,
        lineEndsShort_iff hraw hparse]
  | none =>
    have hend : IsGreatest (nav.stops line) raw.endColumn := by
      rw [stops_of_text hraw hparse]
      exact ⟨⟨Nat.le_add_left .., Nat.le_refl _⟩, fun c hc => hc.2⟩
    refine ⟨raw.endColumn, land_of_mem_stops hreader hend.1 byRule, hlast.2 hend.1, ?_⟩
    simp only [hend.unique hlast, Nat.lt_irrefl, not_lineEndsShort hraw hparse]

/-! ### The two ways -/

section Ways

variable (hreader : nav.reader.IsFaithful) (hline : 2 ≤ caret.position.line)
  (hfirst : IsLeast (nav.stops caret.position.line) caret.position.column)
  (hlast : IsGreatest (nav.stops (caret.position.line - 1)) last) (hm : m.isLeftward = true)

include hreader hline hfirst hlast hm

/-- **From an action line** the rules lead to the last stop of the line above. -/
theorem RestsOn.wrap_left (h : nav.RestsOn caret action raw) :
    (nav.move caret m).1 = .ok (.of (caret.position.line - 1) last) := by
  rw [h.stops_eq] at hfirst
  have hdigit := hfirst.unique (isLeast_firstDigit h.expressible raw)
  obtain ⟨next, hrule, -⟩ :=
    exists_toColumn_of_isLeftward h.expressible caret.position.rehint h.slot hm
  rcases h.move_of_isLeftward hreader hm hrule with
    ⟨hlt, -⟩ | ⟨-, -, last', hmove, hlast'⟩ | ⟨-, hone, -⟩
  · exact absurd hdigit (Nat.ne_of_gt hlt)
  · rw [hmove, hlast.unique hlast']
  · exact absurd hline (Nat.not_le.mpr (Nat.lt_succ_of_le hone))

/-- **From another line** the mover leads to where the end of the text above lands. -/
theorem RestsIn.wrap_left {pageLines : Nat} (hmover : nav.text = PlainText.mover pageLines)
    (h : nav.RestsIn caret raw) :
    ∃ column, (nav.move caret m).1 = .ok (.of (caret.position.line - 1) column) ∧
      column ≤ last ∧ (column < last ↔ nav.LineEndsShort (caret.position.line - 1)) := by
  have hone : caret.position.column = 1 := hfirst.unique h.isLeast_one
  have hvertical : m.isVertical = false := by
    rcases Movement.isLeftward_iff.mp hm with rfl | rfl | rfl <;> rfl
  obtain ⟨above, habove, -⟩ := id hlast.1
  obtain ⟨column, hland, hcolumn⟩ := exists_land_end hreader habove hlast false
  obtain ⟨stop, hmove, hsome, -⟩ := PlainText.moveHorizontally_of_isLeftward h.line h.column hm
  cases stop with
  | some c =>
    -- there is no stop left of the first column
    have hstop : 1 ≤ c ∧ c < caret.position.column := hsome c rfl
    omega
  | none =>
    rw [PlainText.leftTo, if_neg (Nat.not_le.mpr hline),
      PlainText.readLine_eq_ok_iff.mpr habove] at hmove
    exact ⟨column, h.move_eq_ok hmover hvertical hmove hland, hcolumn⟩

end Ways

/-- **Over the start of a line** every step to the left leads to the last stop of the line above,
unless it starts on a line that is no action line and the line above is one that ends short. Then,
and only then, it leads to an earlier stop. -/
theorem wrap_left_to_last_iff {doc : Document} {pageLines : Nat} (hdoc : nav.reader = doc.reader)
    (hmover : nav.text = PlainText.mover pageLines) (hline : 2 ≤ caret.position.line)
    (hfirst : IsLeast (nav.stops caret.position.line) caret.position.column)
    (hm : m.isLeftward = true) :
    ∃ last column, nav.lastSlotOf (caret.position.line - 1) = .ok last ∧
      IsGreatest (nav.stops (caret.position.line - 1)) last ∧
      (nav.move caret m).1 = .ok (.of (caret.position.line - 1) column) ∧ column ≤ last ∧
      (column < last ↔ nav.actionLine? caret.position.line = none ∧
        nav.LineEndsShort (caret.position.line - 1)) := by
  have hreader : nav.reader.IsFaithful := hdoc ▸ doc.isFaithful_reader
  have hrests : nav.Rests caret.position := rests_iff.mpr hfirst.1
  have hbounds := hrests.line_le hreader
  have habove : 1 ≤ caret.position.line - 1 ∧
      caret.position.line - 1 ≤ nav.reader.lineCount := by omega
  obtain ⟨last, hlast, hgreatest⟩ := exists_lastSlotOf hreader habove
  rcases hrests.cases with ⟨action, raw, h⟩ | ⟨raw, h⟩
  · have haction : nav.actionLine? caret.position.line = some action := by
      rw [actionLine?, h.line]
      exact h.parsed
    refine ⟨last, last, hlast, hgreatest, h.wrap_left hreader hline hfirst hgreatest hm,
      Nat.le_refl _, ?_⟩
    simp only [Nat.lt_irrefl, haction, reduceCtorEq, false_and]
  · have htext : nav.actionLine? caret.position.line = none := by
      rw [actionLine?, h.line]
      exact h.notAction
    obtain ⟨column, hmove, hle, hshort⟩ :=
      h.wrap_left hreader hline hfirst hgreatest hm hmover
    refine ⟨last, column, hlast, hgreatest, hmove, hle, ?_⟩
    rw [hshort, htext]
    exact (and_iff_right rfl).symm

/-- From an action line a step by word leads behind the angle of the line above, beyond its text. -/
theorem wrap_left_behind_angle :
    IsLeast ((ofDocument (Document.ofText "15,R,F,4.5\n  20,R".toList) 20 4).stops 2) 3 ∧
      (move (ofDocument (Document.ofText "15,R,F,4.5\n  20,R".toList) 20 4)
        (.placedAt (.of 2 3)) .wordLeft).1 = .ok (.of 1 13) := by
  have hraw : (ofDocument (Document.ofText "15,R,F,4.5\n  20,R".toList) 20 4).reader.line? 2 =
      some "  20,R".toList := by
    decide +kernel
  have hparse : ActionLine.parse? 4 "  20,R".toList =
      some ((ActionLine.ofFrames 20 (.single .right)).withWidth 4) := by
    decide +kernel
  have hfirst :
      IsLeast ((ofDocument (Document.ofText "15,R,F,4.5\n  20,R".toList) 20 4).stops 2) 3 := by
    rw [stops_of_action hraw hparse]
    exact isLeast_firstDigit (ActionLine.expressible_of_parse? hparse) _
  have haction : (ofDocument (Document.ofText "15,R,F,4.5\n  20,R".toList) 20 4).actionLine? 2 =
      some ((ActionLine.ofFrames 20 (.single .right)).withWidth 4) := by
    rw [actionLine?, hraw]
    exact hparse
  have hreader : (ofDocument (Document.ofText "15,R,F,4.5\n  20,R".toList) 20 4).reader =
      (Document.ofText "15,R,F,4.5\n  20,R".toList).reader := rfl
  have hline : 2 ≤ (Caret.placedAt (.of 2 3)).position.line := by decide
  have hm : Movement.wordLeft.isLeftward = true := rfl
  obtain ⟨last, column, hlast, -, hmove, hle, hshort⟩ :=
    wrap_left_to_last_iff hreader rfl hline hfirst hm
  have hthirteen : last = 13 := Except.ok.inj (hlast.symm.trans (by decide +kernel))
  have heq : column = last := by
    refine Nat.le_antisymm hle (Nat.not_lt.mp fun hlt => ?_)
    cases (hshort.mp hlt).1.symm.trans haction
  refine ⟨hfirst, ?_⟩
  rw [hmove, heq, hthirteen]
  rfl

/-- From a comment below an action line without its padding, every step to the left stops short of
the last input. From an action line in the same place none does. -/
theorem wrap_left_stops_short :
    (ofDocument (Document.ofText "15,R,J\n# next".toList) 20 4).lastSlotOf 1 = .ok 9 ∧
      (∀ m ∈ [Movement.charLeft, .wordLeft, .backspace],
        (move (ofDocument (Document.ofText "15,R,J\n# next".toList) 20 4)
          (.placedAt (.of 2 1)) m).1 = .ok (.of 1 7)) ∧
      ∀ m ∈ [Movement.charLeft, .wordLeft, .backspace],
        (move (ofDocument (Document.ofText "15,R,J\n  20,R".toList) 20 4)
          (.placedAt (.of 2 3)) m).1 = .ok (.of 1 9) := by
  decide +kernel

end Navigation

end FrameScript
