import FrameScript.ActionLine.Parser
import FrameScript.ActionLine.Slot
import FrameScript.Navigation.Caret
import FrameScript.Navigation.Payload
import FrameScript.Navigation.PlainText
import FrameScript.Navigation.Region

/-!
# Navigation of scripts

Every movement of the caret goes through `Navigation.move`. On an action line it follows the rules
of this module: steps lead from slot to slot, each region of the line has its own, and at either
end the caret wraps to the neighbouring line. All other lines, and movements by page and to the
ends of the document, are left to a `TextMover`.

Whatever the rules or the mover decide, the caret then *lands*: its line is moved into the
document, its column into the line, and on an action line to a slot.

## Implementation notes

A movement gives back the caret beside its answer. If the answer is an error, it is the caret as
it was, whatever the mover did to the remembered cell.
-/

namespace FrameScript

/-- What the rules of action lines decide. -/
inductive Decision
  /-- Another column of the same line. -/
  | toColumn (column : Nat)
  /-- The same column of another line. -/
  | toLine (line : Nat)
  /-- The end of the line above or the start of the line below. -/
  | wrapTo (target : Position)
  /-- Nothing; it is left to the text mover. -/
  | handOver
deriving DecidableEq, Repr

/-- Where a movement leads before the caret lands. -/
structure Destination where
  target : Position
  /-- Whether a rule of action lines says so. -/
  byRule : Bool
  /-- The remembered cell from there on. -/
  remembered : Option Nat
deriving DecidableEq, Repr

/-- The navigation of the lines that a reader gives. -/
structure Navigation where
  reader : LineReader
  text : TextMover
  /-- Columns of the frame count field, before clamping. -/
  frameColumns : Nat

namespace Navigation

/-! ### Lines -/

/-- The action line with the given number, if that line is one. -/
def actionLine? (nav : Navigation) (line : Nat) : Option ActionLine :=
  (nav.reader.line? line).bind (ActionLine.parse? nav.frameColumns)

/-- The slot that a column of a line belongs to; on lines that are no action lines the column
itself. -/
def slotFor (nav : Navigation) (line column : Nat) : Nat :=
  match nav.actionLine? line with
  | some action => action.snap column
  | none => column

/-- The last column to be reached on an action line: one past its text as it stands or past its
canonical text, whichever is longer. -/
def reach (action : ActionLine) (raw : Text) : Nat := max raw.length action.textLength + 1

/-- The last slot of an action line. -/
def lastSlot (action : ActionLine) (raw : Text) : Nat := action.snap (reach action raw)

/-- The last slot of a line. -/
def lastSlotOf (nav : Navigation) (line : Nat) : Except NavigationError Nat :=
  (PlainText.readLine nav.reader line).map fun raw =>
    match ActionLine.parse? nav.frameColumns raw with
    | some action => lastSlot action raw
    | none => raw.endColumn

/-! ### Rules of action lines -/

/-- What a movement from a slot does within the line. -/
def decideWithin (action : ActionLine) (raw : Text) (p : Position) (m : Movement) : Decision :=
  match action.region p.column, m with
  | _, .lineStart => .toColumn action.firstDigit
  | _, .lineEnd => .toColumn (lastSlot action raw)
  | _, .lineUp => .toLine (p.line - 1)
  | _, .lineDown => .toLine (p.line + 1)
  | _, .stay | _, .pageUp | _, .pageDown | _, .documentStart | _, .documentEnd => .handOver
  | .digits, .charLeft | .digits, .backspace => .toColumn (p.column - 1)
  | .digits, .charRight => .toColumn (p.column + 1)
  | .digits, .wordLeft | .boundary, .wordLeft => .toColumn action.firstDigit
  | .digits, .wordRight => .toColumn action.boundary
  | .boundary, .charLeft | .boundary, .backspace => .toColumn (p.column - 1)
  | .boundary, .charRight => .toColumn (p.column + 2)
  | .boundary, .wordRight => .toColumn (lastSlot action raw)
  | .token, .charLeft | .token, .backspace => .toColumn (p.column - 2)
  | .feather, .charLeft | .feather, .backspace => .toColumn (p.column - 2)
  | .token, .charRight => .toColumn (p.column + 2)
  | .token, .wordLeft | .feather, .wordLeft => .toColumn action.boundary
  | .token, .wordRight => .toColumn (lastSlot action raw)
  | .feather, .charRight | .feather, .wordRight => .toColumn (p.column + 1)
  | .payload, .backspace => .toColumn (Payload.step raw p.column .charLeft)
  | .payload, m => .toColumn (Payload.step raw p.column m)

/-- What a movement from a slot of an action line does. At the ends of the line it wraps to the
neighbouring line, if there is one. -/
def decide (nav : Navigation) (action : ActionLine) (raw : Text) (p : Position) (m : Movement) :
    Except NavigationError Decision :=
  if m.isLeftward ∧ p.column ≤ action.firstDigit ∧ 1 < p.line then
    (nav.lastSlotOf (p.line - 1)).map fun column => .wrapTo (.of (p.line - 1) column)
  else if m.isRightward ∧ lastSlot action raw ≤ p.column ∧ p.line < nav.reader.lineCount then
    .ok (.wrapTo (.of (p.line + 1) 1))
  else .ok (decideWithin action raw p m)

/-! ### Movement -/

/-- Leaves a movement to the text mover. -/
def handOver (nav : Navigation) (p : Position) (m : Movement) (remembered : Option Nat) :
    Except NavigationError Destination :=
  match nav.text.move nav.reader p m remembered with
  | (answer, remembered) => answer.map (⟨·, false, remembered⟩)

/-- Where a movement leads before the caret lands. -/
def destination (nav : Navigation) (caret : Caret) (m : Movement) :
    Except NavigationError Destination := do
  let raw ← PlainText.readLine nav.reader caret.position.line
  match ActionLine.parse? nav.frameColumns raw with
  | none => nav.handOver caret.position m caret.remembered
  | some action =>
    let column := max 1 (min caret.position.column (reach action raw))
    let p := Position.of caret.position.line (action.snap column)
    match ← nav.decide action raw p m with
    | .toColumn column => return ⟨p.withColumn column, true, caret.remembered⟩
    | .toLine line => return ⟨.of line p.column, true, caret.remembered⟩
    | .wrapTo target => return ⟨target, true, caret.remembered⟩
    | .handOver => nav.handOver p m caret.remembered

/-- The target moved into the document, into its line, and to a slot if that is an action line.
Hints for the display are kept only if the text mover gave them and nothing had to be moved. -/
def land (nav : Navigation) (target : Position) (byRule : Bool) :
    Except NavigationError Position := do
  let line := max 1 (min target.line (max nav.reader.lineCount 1))
  let raw ← PlainText.readLine nav.reader line
  match ActionLine.parse? nav.frameColumns raw with
  | some action =>
    let column := max 1 (min target.column (reach action raw))
    return .of line (action.snap column)
  | none =>
    let column := raw.moveInto target.column
    let moved := line ≠ target.line ∨ column ≠ target.column
    if byRule ∨ moved then return .of line column else return target

/-- The caret after a movement. -/
def moved (nav : Navigation) (caret : Caret) (m : Movement) : Except NavigationError Caret := do
  let destination ← nav.destination caret m
  let position ← nav.land destination.target destination.byRule
  return ⟨position, if m.isVertical then destination.remembered else none⟩

/-- Moves the caret. The answer is its new position or the reason why it stays; beside it stands
the caret after the movement. -/
def move (nav : Navigation) (caret : Caret) (m : Movement) :
    Except NavigationError Position × Caret :=
  match nav.moved caret m with
  | .ok after => (.ok after.position, after)
  | .error e => (.error e, caret)

/-! ### The answer and the caret -/

/-- The answer of a movement that succeeds is the position of the caret. -/
theorem position_of_move {nav : Navigation} {caret : Caret} {m : Movement} {p : Position}
    (h : (nav.move caret m).1 = .ok p) : (nav.move caret m).2.position = p := by
  unfold move at h ⊢
  split <;> simp_all

/-- A movement that fails leaves the caret as it was. -/
theorem move_of_error {nav : Navigation} {caret : Caret} {m : Movement} {e : NavigationError}
    (h : (nav.move caret m).1 = .error e) : (nav.move caret m).2 = caret := by
  unfold move at h ⊢
  split <;> simp_all

end Navigation

end FrameScript
