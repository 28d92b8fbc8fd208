import FrameScript.Document.Basic
import FrameScript.Keymap.Command
import FrameScript.Navigation.Basic
import FrameScript.Options
import FrameScript.Selection

/-!
# Editing sessions

A session is a document with a caret, a selection and options. Every navigation key ends up in one
of its commands: move the caret and drop the selection, move it and extend the selection, move it
and extend a rectangle, or select everything.

## Implementation notes

A command gives back the session beside its answer. If the answer is an error, the session is as
it was before, with two exceptions that concern the selection: moving has dropped it, and
extending a rectangle has turned it into one.
-/

namespace FrameScript

/-- A document being edited. -/
structure Session where
  document : Document
  caret : Caret
  selection : Selection
  options : Options
  /-- Whether the caret was moved since that was last asked for. -/
  caretMoved : Bool
deriving DecidableEq, Repr

namespace Session

/-- A session at the start of a document. -/
def start (document : Document) (options : Options) : Session where
  document
  caret := default
  selection := .none
  options
  caretMoved := false

/-- The navigation of the document under the options. -/
def navigation (session : Session) : Navigation where
  reader := session.document.reader
  text := PlainText.mover session.options.pageLines
  frameColumns := session.options.frameColumns

/-- The action line at the caret. -/
def actionLine? (session : Session) : Option ActionLine :=
  session.navigation.actionLine? session.caret.position.line

/-! ### Placing the caret -/

/-- Places the caret at a position, on action lines at the slot it belongs to, and drops the
selection. -/
def placeCaret (session : Session) (p : Position) : Session :=
  { session with
    caret := .placedAt (p.withColumn (session.navigation.slotFor p.line p.column))
    selection := .none }

/-- Replaces the whole text. The caret is moved into the new text. -/
def setText (session : Session) (text : Text) : Session :=
  let document := session.document.setText text
  let line := max 1 (min session.caret.position.line (max document.lineCount 1))
  let length := (document.reader.lineLength? line).getD 0
  { session with document }.placeCaret (.of line (min session.caret.position.column (length + 1)))

/-- Whether the caret was moved since the last time this was asked. -/
def askMoved (session : Session) : Bool × Session :=
  (session.caretMoved, { session with caretMoved := false })

/-! ### Commands -/

/-- Moves the caret, and does to the selection what is said for a caret that was moved from one
position to another. If the caret stays, so does the selection. -/
def moveCaret (session : Session) (m : Movement) (select : Position → Position → Selection) :
    Except NavigationError Position × Session :=
  match session.navigation.move session.caret m with
  | (.ok p, caret) =>
    (.ok p, { session with caret, selection := select session.caret.position p, caretMoved := true })
  | (.error e, _) => (.error e, session)

/-- Moves the caret and drops the selection. -/
def move (session : Session) (m : Movement) : Except NavigationError Position × Session :=
  { session with selection := .none }.moveCaret m fun _ _ => .none

/-- Moves the caret and lets the selection follow it. -/
def extend (session : Session) (m : Movement) : Except NavigationError Position × Session :=
  session.moveCaret m session.selection.extend

/-- The selection as a rectangle: from its anchor, or else from the caret, to the caret. -/
def boxed (session : Session) : Selection :=
  let caret := session.caret.position
  match session.selection with
  | .none => .rectangle ⟨caret, caret⟩
  | .simple anchor _ => .rectangle ⟨anchor, caret⟩
  | .rectangle corners => .rectangle corners

/-- Moves the caret and lets a rectangle follow it, if rectangles can be selected. -/
def extendBox (session : Session) (m : Movement) : Except NavigationError Position × Session :=
  if session.options.rectangles then { session with selection := session.boxed }.extend m
  else session.extend m

/-- Selects the whole document and places the caret at its end. -/
def selectAll (session : Session) : Except NavigationError Selection × Session :=
  let document := session.document
  match document.position? document.text.length with
  | none => (.error (.noLine document.lineCount), session)
  | some stop =>
    let selection := Selection.between .start stop
    (.ok selection, { session with caret := .placedAt stop, selection })

/-- Moves the caret with an effect on the selection. -/
def moveWith (session : Session) (effect : SelectionEffect) (m : Movement) :
    Except NavigationError Position × Session :=
  match effect with
  | .drop => session.move m
  | .extend => session.extend m
  | .box => session.extendBox m

/-- Carries out a command. -/
def execute (session : Session) : Command → Except NavigationError Unit × Session
  | .caret m effect => (session.moveWith effect m).map (·.map fun _ => ()) id
  | .selectAll => session.selectAll.map (·.map fun _ => ()) id

end Session

end FrameScript
