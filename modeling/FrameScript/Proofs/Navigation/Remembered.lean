import FrameScript.Proofs.Navigation.Landing

/-!
# The caret after a movement

A movement changes the caret as a whole or not at all. The text mover is not trusted with it: what
it does to the remembered cell counts only if it also gives a target and the target can be landed
on. If it fails halfway, or the line to land on is missing, the caret is as it was.

After a movement that succeeds, the cell is forgotten unless the movement is vertical. A vertical
movement from ordinary text is the mover's, and so is one by a page from an action line: the cell is
what the mover leaves. Up and down by a line from an action line are not: they keep the column, and
the cell stays as it was.

## Main definitions

* `Navigation.MoverLeads` — where the text mover leads, and the cell that it leaves

## Main results

* `Navigation.move_eq_ok_caret_iff` — the whole caret after a movement that succeeds
* `Navigation.moverLeads_iff` — where it leads if it is left to the mover
* `Navigation.move_of_text_iff`, `Navigation.move_of_page_iff`, `Navigation.move_of_line_iff` —
  vertical movements from ordinary text and from action lines
* `Navigation.move_all_or_nothing` — all movements
-/

namespace FrameScript

namespace Navigation

variable {nav : Navigation} {caret : Caret} {m : Movement} {p start : Position} {raw : Text}
  {action : ActionLine} {cell before : Option Nat}

/-- **A movement that succeeds** takes the cell of its destination along if it is vertical. -/
theorem move_eq_ok_caret_iff {after : Caret} :
    nav.move caret m = (.ok p, after) ↔
      ∃ d, nav.destination caret m = .ok d ∧ nav.land d.target d.byRule = .ok p ∧
        after = ⟨p, if m.isVertical then d.remembered else none⟩ := by
  constructor
  · intro h
    obtain ⟨d, hd, hland⟩ := move_eq_ok_iff.mp (congrArg Prod.fst h)
    refine ⟨d, hd, hland, ?_⟩
    rw [move, moved, hd, Outcome.ok_bind, hland] at h
    exact (congrArg Prod.snd h).symm
  · rintro ⟨d, hd, hland, rfl⟩
    rw [move, moved, hd, Outcome.ok_bind, hland]
    rfl

/-! ### What is left to the mover -/

/-- The text mover leads from one position to another, with one remembered cell before and another
after. -/
def MoverLeads (nav : Navigation) (start : Position) (m : Movement) (before : Option Nat)
    (p : Position) (after : Option Nat) : Prop :=
  ∃ target, nav.text.move nav.reader start m before = (.ok target, after) ∧
    nav.land target false = .ok p

/-- So does a movement that is left to it. -/
theorem moverLeads_iff :
    nav.MoverLeads start m before p cell ↔
      ∃ d, nav.handOver start m before = .ok d ∧ nav.land d.target d.byRule = .ok p ∧
        cell = d.remembered := by
  rw [MoverLeads, handOver]
  cases nav.text.move nav.reader start m before with
  | mk answer after =>
    constructor
    · rintro ⟨target, hmover, hland⟩
      cases hmover
      exact ⟨_, rfl, hland, rfl⟩
    · rintro ⟨d, hd, hland, rfl⟩
      obtain ⟨target, rfl, rfl⟩ := Outcome.map_eq_ok_iff.mp hd
      exact ⟨target, rfl, hland⟩

/-! ### Vertical movements -/

/-- The cell after a vertical movement is that of its destination. -/
theorem move_of_isVertical_iff (hm : m.isVertical = true) :
    nav.move caret m = (.ok p, ⟨p, cell⟩) ↔
      ∃ d, nav.destination caret m = .ok d ∧ nav.land d.target d.byRule = .ok p ∧
        cell = d.remembered := by
  simp only [move_eq_ok_caret_iff, hm, if_true, Caret.mk.injEq, true_and]

theorem decide_of_page (hm : m = .pageUp ∨ m = .pageDown) :
    nav.decide action raw start m = .ok .handOver := by
  rcases hm with rfl | rfl <;> rw [decide_of_not_sideways rfl rfl, decideWithin]

theorem decide_lineUp : nav.decide action raw start .lineUp = .ok (.toLine (start.line - 1)) := by
  rw [decide_of_not_sideways rfl rfl, decideWithin]

theorem decide_lineDown :
    nav.decide action raw start .lineDown = .ok (.toLine (start.line + 1)) := by
  rw [decide_of_not_sideways rfl rfl, decideWithin]

section FromLine

variable (hraw : nav.reader.line? caret.position.line = some raw)

include hraw

/-- From ordinary text the mover leads. -/
theorem move_of_text_iff (htext : ActionLine.parse? nav.frameColumns raw = none)
    (hm : m.isVertical = true) :
    nav.move caret m = (.ok p, ⟨p, cell⟩) ↔
      nav.MoverLeads caret.position m caret.remembered p cell := by
  rw [move_of_isVertical_iff hm, destination_of_text hraw htext, moverLeads_iff]

variable (haction : ActionLine.parse? nav.frameColumns raw = some action)

include haction

/-- It also leads from an action line by a page, beginning at the slot that the caret belongs to. -/
theorem move_of_page_iff (hm : m = .pageUp ∨ m = .pageDown) :
    nav.move caret m = (.ok p, ⟨p, cell⟩) ↔
      nav.MoverLeads (.of caret.position.line (landingSlot action raw caret.position.column)) m
        caret.remembered p cell := by
  have hvertical : m.isVertical = true := by rcases hm with rfl | rfl <;> rfl
  rw [move_of_isVertical_iff hvertical, destination_of_action hraw haction, decide_of_page hm,
    Outcome.ok_bind, moverLeads_iff]

/-- By a line the rules lead on. They keep the column, and have no use for the cell. -/
theorem move_of_line_iff {line : Nat}
    (hm : m = .lineUp ∧ line = caret.position.line - 1 ∨
      m = .lineDown ∧ line = caret.position.line + 1) :
    nav.move caret m = (.ok p, ⟨p, cell⟩) ↔
      nav.land (.of line (landingSlot action raw caret.position.column)) true = .ok p ∧
        cell = caret.remembered := by
  have hvertical : m.isVertical = true := by rcases hm with ⟨rfl, -⟩ | ⟨rfl, -⟩ <;> rfl
  have hdestination : nav.destination caret m = .ok
      ⟨.of line (landingSlot action raw caret.position.column), true, caret.remembered⟩ := by
    rw [destination_of_action hraw haction]
    rcases hm with ⟨rfl, rfl⟩ | ⟨rfl, rfl⟩
    · rw [decide_lineUp]
      rfl
    · rw [decide_lineDown]
      rfl
  rw [move_of_isVertical_iff hvertical, hdestination]
  simp only [Except.ok.injEq, exists_eq_left']

end FromLine

/-! ### All movements -/

/-- **A movement changes the caret as a whole or not at all**, whatever the reader says of its lines
and whatever the text mover does. If it fails, the caret is as it was, and from a line that is not
there it fails. If it leads to a position, the caret is there, with the hints of that position, and
the remembered cell is forgotten unless the movement is vertical. A vertical movement leads where
the mover leads and leaves the cell that the mover leaves, if it begins on ordinary text or goes by
a page from an action line; by a line from an action line it leads to the next line, and the cell
stays as it was. -/
theorem move_all_or_nothing (nav : Navigation) (caret : Caret) (m : Movement) :
    (∀ e, (nav.move caret m).1 = .error e → (nav.move caret m).2 = caret) ∧
    (∀ p, (nav.move caret m).1 = .ok p →
      (nav.move caret m).2.position = p ∧
        (m.isVertical = false → (nav.move caret m).2.remembered = none)) ∧
    (nav.reader.line? caret.position.line = none →
      (nav.move caret m).1 = .error (.noLine caret.position.line)) ∧
    ∀ raw, nav.reader.line? caret.position.line = some raw →
      (ActionLine.parse? nav.frameColumns raw = none → m.isVertical = true →
        ∀ p cell, nav.move caret m = (.ok p, ⟨p, cell⟩) ↔
          nav.MoverLeads caret.position m caret.remembered p cell) ∧
      ∀ action, ActionLine.parse? nav.frameColumns raw = some action →
        (m = .pageUp ∨ m = .pageDown →
          ∀ p cell, nav.move caret m = (.ok p, ⟨p, cell⟩) ↔
            nav.MoverLeads
              (.of caret.position.line (landingSlot action raw caret.position.column)) m
              caret.remembered p cell) ∧
        ∀ line, (m = .lineUp ∧ line = caret.position.line - 1 ∨
            m = .lineDown ∧ line = caret.position.line + 1) →
          ∀ p cell, nav.move caret m = (.ok p, ⟨p, cell⟩) ↔
            nav.land (.of line (landingSlot action raw caret.position.column)) true = .ok p ∧
              cell = caret.remembered := by
  refine ⟨fun e h => move_of_error h, fun p h => ⟨position_of_move h, fun hm => ?_⟩, fun hnone => ?_,
    fun raw hraw => ⟨fun htext hm p cell => move_of_text_iff hraw htext hm,
      fun action haction => ⟨fun hm p cell => move_of_page_iff hraw haction hm,
        fun line hm p cell => move_of_line_iff hraw haction hm⟩⟩⟩
  · obtain ⟨d, -, -, hcaret⟩ := move_eq_ok_caret_iff.mp (Prod.ext h rfl)
    exact (congrArg Caret.remembered hcaret).trans (if_neg (Bool.eq_false_iff.mp hm))
  · rw [move_of_no_line hnone]

/-- A script of an action line and another, with a text mover that always writes the cell, and then
gives a position far outside for a page down and fails otherwise. -/
def ofStrayMover : Navigation where
  reader := (Document.ofText "  20,R\nword".toList).reader
  text := ⟨fun _ _ m _ =>
    (if m = .pageDown then .ok ⟨0, 99, 5, true⟩ else .error (.unsupported m), some 7)⟩
  frameColumns := 4

/-- What such a mover writes is kept after the page down that it leads, and only then. -/
theorem move_all_or_nothing_of_stray_mover :
    ((ofStrayMover.move ⟨.of 1 1, some 2⟩ .pageUp).1 = .error (.unsupported .pageUp) ∧
      (ofStrayMover.move ⟨.of 1 1, some 2⟩ .pageUp).2 = ⟨.of 1 1, some 2⟩) ∧
    ofStrayMover.move ⟨.of 1 1, some 2⟩ .pageDown = (.ok (.of 1 7), ⟨.of 1 7, some 7⟩) ∧
    ofStrayMover.move ⟨.of 1 1, some 2⟩ .lineDown = (.ok (.of 2 3), ⟨.of 2 3, some 2⟩) ∧
    ofStrayMover.move ⟨.of 2 1, some 2⟩ .pageDown = (.ok (.of 1 7), ⟨.of 1 7, some 7⟩) ∧
    ((ofStrayMover.move ⟨.of 1 1, some 2⟩ .charRight).1 = .ok (.of 1 4) ∧
      (ofStrayMover.move ⟨.of 1 1, some 2⟩ .charRight).2.remembered = none) ∧
    (ofStrayMover.move ⟨.of 3 1, some 2⟩ .lineUp).1 = .error (.noLine 3) := by
  have hparse : ∃ action, ActionLine.parse? ofStrayMover.frameColumns "  20,R".toList = some action ∧
      landingSlot action "  20,R".toList 1 = 3 := ⟨_, rfl, rfl⟩
  obtain ⟨action, haction, hslot⟩ := hparse
  refine ⟨⟨rfl, ?_⟩, ?_, ?_, ?_, ⟨rfl, ?_⟩, ?_⟩
  · exact (move_all_or_nothing _ _ _).1 (.unsupported .pageUp) rfl
  · have hpage := (((move_all_or_nothing ofStrayMover ⟨.of 1 1, some 2⟩ .pageDown).2.2.2
      "  20,R".toList rfl).2 action haction).1 (Or.inr rfl)
    exact (hpage _ _).mpr ⟨⟨0, 99, 5, true⟩, rfl, rfl⟩
  · have hline := (((move_all_or_nothing ofStrayMover ⟨.of 1 1, some 2⟩ .lineDown).2.2.2
      "  20,R".toList rfl).2 action haction).2 2 (Or.inr ⟨rfl, rfl⟩)
    refine (hline _ _).mpr ⟨?_, rfl⟩
    rw [show (Caret.mk (.of 1 1) (some 2)).position.column = 1 from rfl, hslot]
    rfl
  · have htext := ((move_all_or_nothing ofStrayMover ⟨.of 2 1, some 2⟩ .pageDown).2.2.2
      "word".toList rfl).1 rfl rfl
    exact (htext _ _).mpr ⟨⟨0, 99, 5, true⟩, rfl, rfl⟩
  · exact ((move_all_or_nothing _ _ _).2.1 (.of 1 4) rfl).2 rfl
  · exact (move_all_or_nothing ofStrayMover ⟨.of 3 1, some 2⟩ .lineUp).2.2.1 rfl

end Navigation

end FrameScript
