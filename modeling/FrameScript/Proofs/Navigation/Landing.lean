import FrameScript.Document.Basic
import FrameScript.Navigation.Basic
import FrameScript.Proofs.ActionLine.Slot

/-!
# Where the caret lands

Every movement ends by landing: whatever the rules of action lines or the text mover give as a
target, its line is moved into the document, its column into the line, and on an action line to a
slot. The slot does not leave the line again, since no edge lies beyond the canonical text. So a
position that a movement leads to is *settled*, and nothing has to be known of the reader or of
the mover for that.

## Main definitions

* `Navigation.landingLine`, `Navigation.landingSlot` — where lines and columns land
* `Navigation.Settled` — a position where the caret may stand

## Main results

* `Navigation.land_of_action`, `Navigation.land_of_text` — all that landing does
* `Navigation.destination_of_text`, `Navigation.destination_of_action`,
  `Navigation.move_of_no_line` — where movements lead from any line, and from none
* `Navigation.settled_of_move` — every movement leads to a settled position
-/

namespace FrameScript

theorem PlainText.readLine_eq_ok_iff {reader : LineReader} {line : Nat} {raw : Text} :
    PlainText.readLine reader line = .ok raw ↔ reader.line? line = some raw := by
  rw [PlainText.readLine]
  cases reader.line? line with
  | none => simp
  | some other => simp

namespace Navigation

variable {nav : Navigation} {target : Position} {byRule : Bool} {raw : Text} {action : ActionLine}

theorem actionLine?_eq_some_iff {line : Nat} :
    nav.actionLine? line = some action ↔
      ∃ raw, nav.reader.line? line = some raw ∧
        ActionLine.parse? nav.frameColumns raw = some action :=
  Option.bind_eq_some_iff

/-! ### Landing -/

/-- The line of the document that a line number lands on. -/
def landingLine (nav : Navigation) (line : Nat) : Nat :=
  max 1 (min line (max nav.reader.lineCount 1))

/-- The slot of an action line that a column lands on. -/
def landingSlot (action : ActionLine) (raw : Text) (column : Nat) : Nat :=
  action.snap (max 1 (min column (reach action raw)))

/-- Landing fails only if the line is not there. -/
theorem exists_line_of_land {p : Position} (h : nav.land target byRule = .ok p) :
    ∃ raw, nav.reader.line? (nav.landingLine target.line) = some raw := by
  rw [land, Outcome.bind_eq_ok_iff] at h
  obtain ⟨raw, hraw, -⟩ := h
  exact ⟨raw, PlainText.readLine_eq_ok_iff.mp hraw⟩

theorem land_of_action (hraw : nav.reader.line? (nav.landingLine target.line) = some raw)
    (haction : ActionLine.parse? nav.frameColumns raw = some action) :
    nav.land target byRule =
      .ok (.of (nav.landingLine target.line) (landingSlot action raw target.column)) := by
  rw [landingLine] at hraw
  simp only [land, PlainText.readLine_eq_ok_iff.mpr hraw, Outcome.ok_bind, haction]
  rfl

theorem land_of_text (hraw : nav.reader.line? (nav.landingLine target.line) = some raw)
    (htext : ActionLine.parse? nav.frameColumns raw = none) :
    nav.land target byRule = .ok
      (if byRule ∨ nav.landingLine target.line ≠ target.line ∨
          raw.moveInto target.column ≠ target.column then
        .of (nav.landingLine target.line) (raw.moveInto target.column)
      else target) := by
  rw [landingLine] at hraw
  simp only [land, PlainText.readLine_eq_ok_iff.mpr hraw, Outcome.ok_bind, htext]
  rw [apply_ite Except.ok]
  rfl

/-! ### Where movements lead -/

variable {caret : Caret} {m : Movement}

/-- On a line that is no action line, every movement is left to the text mover. -/
theorem destination_of_text (hraw : nav.reader.line? caret.position.line = some raw)
    (htext : ActionLine.parse? nav.frameColumns raw = none) :
    nav.destination caret m = nav.handOver caret.position m caret.remembered := by
  simp only [destination, PlainText.readLine_eq_ok_iff.mpr hraw, Outcome.ok_bind, htext]

/-- On an action line, the rules decide from the slot that the caret belongs to. -/
theorem destination_of_action (hraw : nav.reader.line? caret.position.line = some raw)
    (haction : ActionLine.parse? nav.frameColumns raw = some action) :
    nav.destination caret m =
      nav.decide action raw
          (.of caret.position.line (landingSlot action raw caret.position.column)) m >>=
        fun decision => match decision with
          | .toColumn column => .ok ⟨.of caret.position.line column, true, caret.remembered⟩
          | .toLine line =>
            .ok ⟨.of line (landingSlot action raw caret.position.column), true, caret.remembered⟩
          | .wrapTo target => .ok ⟨target, true, caret.remembered⟩
          | .handOver =>
            nav.handOver (.of caret.position.line (landingSlot action raw caret.position.column)) m
              caret.remembered := by
  simp only [destination, PlainText.readLine_eq_ok_iff.mpr hraw, Outcome.ok_bind, haction]
  rfl

/-- Movements that go to neither side do not wrap. -/
theorem decide_of_not_sideways (hleft : m.isLeftward = false) (hright : m.isRightward = false)
    (nav : Navigation) (action : ActionLine) (raw : Text) (p : Position) :
    nav.decide action raw p m = .ok (decideWithin action raw p m) := by
  simp only [decide, hleft, hright, Bool.false_eq_true, false_and, if_false]

/-- **A caret on no line** does not move. -/
theorem move_of_no_line (h : nav.reader.line? caret.position.line = none) (m : Movement) :
    nav.move caret m = (.error (.noLine caret.position.line), caret) := by
  have hread : PlainText.readLine nav.reader caret.position.line =
      .error (.noLine caret.position.line) := by rw [PlainText.readLine, h]
  have hdestination : nav.destination caret m = .error (.noLine caret.position.line) := by
    rw [destination, hread]
    rfl
  rw [move, moved, hdestination]
  rfl

/-! ### Lines and slots -/

theorem one_le_landingLine (nav : Navigation) (line : Nat) : 1 ≤ nav.landingLine line :=
  Nat.le_max_left ..

theorem landingLine_le (nav : Navigation) (line : Nat) :
    nav.landingLine line ≤ max nav.reader.lineCount 1 := by
  rw [landingLine]
  omega

/-- Every slot up to the last edge can be reached. -/
theorem lastEdge_le_reach (h : action.Expressible) (raw : Text) :
    action.lastEdge ≤ reach action raw := by
  have := h.lastEdge_le
  rw [reach]
  omega

theorem one_le_reach (action : ActionLine) (raw : Text) : 1 ≤ reach action raw :=
  Nat.le_add_left ..

/-- Snapping does not push a column out of the line again. -/
theorem landingSlot_le_reach (h : action.Expressible) (raw : Text) (column : Nat) :
    landingSlot action raw column ≤ reach action raw := by
  refine h.snap_le ?_ (lastEdge_le_reach h raw)
  have := one_le_reach action raw
  omega

/-! ### Settled positions -/

/-- The caret may stand at the position: it lies on a line of the document and in that line, and
if that is an action line, at a slot and without hints for the display. -/
structure Settled (nav : Navigation) (p : Position) : Prop where
  one_le_line : 1 ≤ p.line
  line_le : p.line ≤ max nav.reader.lineCount 1
  within : ∃ raw, nav.reader.line? p.line = some raw ∧
    (∀ action, ActionLine.parse? nav.frameColumns raw = some action →
      (1 ≤ p.column ∧ p.column ≤ max raw.length action.textLength + 1) ∧
        action.snap p.column = p.column ∧
        p.visualColumn = p.column - 1 ∧ p.atEndOfLine = false) ∧
    (ActionLine.parse? nav.frameColumns raw = none → 1 ≤ p.column ∧ p.column ≤ raw.length + 1)

/-- Wherever a target is, it lands settled. -/
theorem settled_of_land {p : Position} (h : nav.land target byRule = .ok p) : nav.Settled p := by
  obtain ⟨raw, hraw⟩ := exists_line_of_land h
  have hone := nav.one_le_landingLine target.line
  have hle := nav.landingLine_le target.line
  cases hparse : ActionLine.parse? nav.frameColumns raw with
  | some action =>
    rw [land_of_action hraw hparse, Except.ok.injEq] at h
    subst h
    have haction := ActionLine.expressible_of_parse? hparse
    refine ⟨hone, hle, raw, hraw, ?_, ?_⟩
    · intro other hother
      cases hparse.symm.trans hother
      exact ⟨⟨action.one_le_snap _, landingSlot_le_reach haction raw _⟩,
        action.snap_snap _, rfl, rfl⟩
    · intro hnone
      cases hparse.symm.trans hnone
  | none =>
    rw [land_of_text hraw hparse, Except.ok.injEq] at h
    have hp : p.line = nav.landingLine target.line ∧ p.column = raw.moveInto target.column := by
      rw [← h]
      split
      · exact ⟨rfl, rfl⟩
      · -- nothing had to be moved
        rename_i hkept
        simp only [not_or, ne_eq, Classical.not_not] at hkept
        exact ⟨hkept.2.1.symm, hkept.2.2.symm⟩
    rw [← hp.1] at hone hle hraw
    refine ⟨hone, hle, raw, hraw, ?_, ?_⟩
    · intro other hother
      cases hparse.symm.trans hother
    · intro _
      rw [hp.2]
      exact ⟨Text.one_le_moveInto raw _, Text.moveInto_le raw _⟩

/-- A movement succeeds if it has a destination that can be landed on. -/
theorem move_eq_ok_iff {caret : Caret} {m : Movement} {p : Position} :
    (nav.move caret m).1 = .ok p ↔
      ∃ d, nav.destination caret m = .ok d ∧ nav.land d.target d.byRule = .ok p := by
  have hmove : (nav.move caret m).1 = .ok p ↔
      ∃ after, nav.moved caret m = .ok after ∧ after.position = p := by
    rw [move]
    cases nav.moved caret m with
    | ok after => simp
    | error e => simp
  rw [hmove, moved]
  simp only [Outcome.bind_eq_ok_iff, pure, Except.pure, Except.ok.injEq]
  constructor
  · rintro ⟨_, ⟨d, hd, position, hland, rfl⟩, rfl⟩
    exact ⟨d, hd, hland⟩
  · rintro ⟨d, hd, hland⟩
    exact ⟨_, ⟨d, hd, p, hland, rfl⟩, rfl⟩

/-- **Every movement leads to a settled position**, whatever the reader says of its lines and
wherever the text mover would put the caret. -/
theorem settled_of_move (nav : Navigation) (caret : Caret) (m : Movement) (p : Position)
    (h : (nav.move caret m).1 = .ok p) : nav.Settled p := by
  obtain ⟨d, -, hland⟩ := move_eq_ok_iff.mp h
  exact settled_of_land hland

/-- A text mover that would put the caret far outside: it lands after the angle of line 1. -/
theorem settled_of_stray_mover :
    ∃ nav : Navigation,
      nav.reader = (Document.ofText "  20,R,F,4.5\nword".toList).reader ∧
      (nav.move (.placedAt (.of 2 3)) .charRight).1 = .ok (.of 1 13) ∧
      nav.Settled (.of 1 13) := by
  refine ⟨⟨_, ⟨fun _ _ _ remembered => (.ok ⟨0, 99, 5, true⟩, remembered)⟩, 4⟩, rfl, ?_⟩
  have hmove : (move ⟨(Document.ofText "  20,R,F,4.5\nword".toList).reader,
      ⟨fun _ _ _ remembered => (.ok ⟨0, 99, 5, true⟩, remembered)⟩, 4⟩
      (.placedAt (.of 2 3)) .charRight).1 = .ok (.of 1 13) :=
    Outcome.toOption_eq_some_iff.mp (by decide +kernel)
  exact ⟨hmove, settled_of_move _ _ _ _ hmove⟩

end Navigation

end FrameScript
