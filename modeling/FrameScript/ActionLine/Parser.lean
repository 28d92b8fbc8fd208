import FrameScript.ActionLine.Basic
import FrameScript.ActionLine.Error
import FrameScript.Text.Blank

/-!
# Reading action lines

A line is a frame count and then inputs, separated by commas; blanks around the line and around
each field do not matter. The letter of feather may be followed by one number, the angle, or two,
angle and magnitude. Inputs may come in any order and case, and may be repeated: they accumulate,
and a later angle or magnitude replaces an earlier one.

## Implementation notes

The fields after the frame count are read from left to right. What has been read is a `Draft`: the
line so far, and which number of a feather the next field may be.
-/

namespace FrameScript.ActionLine

/-- The number that may come next. -/
inductive Awaited
  | nothing
  | angle
  | magnitude
deriving DecidableEq, Repr

/-- A line of which some fields have been read. -/
structure Draft where
  line : ActionLine
  awaits : Awaited
deriving DecidableEq

/-! ### Single fields -/

/-- The frame count of a field that has at most so many digits. -/
def readFrames (width : FrameWidth) (field : Text) : Except ParseError Nat :=
  if field = [] ∨ ¬ field.all Char.isDigit then .error (.badFrames field)
  else if width.columns < field.length then .error (.tooManyDigits field.length width.columns)
  else .ok (Decimal.digitsValue field)

/-- Whether a field begins like a number: with a digit, a sign or a point. -/
def startsNumber (field : Text) : Bool :=
  match field with
  | [] => false
  | c :: _ => c.isDigit || c = '-' || c = '+' || c = '.'

/-- The finite number of a field. -/
def readValue (field : Text) : Except ParseError Binary64 :=
  match Binary64.ofText? field with
  | some value => if value.isFinite then .ok value else .error (.badNumber field)
  | none => .error (.badNumber field)

/-- The input of a field that is a single letter. -/
def readInput (field : Text) : Except ParseError Input :=
  match field with
  | [c] =>
    match Input.ofLetter? c with
    | some i => .ok i
    | none => .error (.unknownInput field)
  | _ => .error (.unknownInput field)

/-! ### Lines -/

namespace Draft

/-- Reads one field after the frame count. -/
def read (draft : Draft) (field : Text) : Except ParseError Draft :=
  if field = [] then .error .emptyField
  else if startsNumber field then
    match draft.awaits with
    | .nothing => .error (.strayNumber field)
    | .angle => (readValue field).map fun value => ⟨draft.line.withAngle value, .magnitude⟩
    | .magnitude => (readValue field).map fun value => ⟨draft.line.withMagnitude value, .nothing⟩
  else
    (readInput field).map fun i =>
      ⟨draft.line.addInput i, if i = .feather then .angle else .nothing⟩

end Draft

/-- The comma separated fields of a line without the blanks around them. -/
def fields (text : Text) : List Text := (text.trim.splitOn ',').map Text.trim

/-- Reads a line with a frame count field of at most so many columns. -/
def parse (columns : Nat) (text : Text) : Except ParseError ActionLine :=
  let width := FrameWidth.clamp columns
  if text.trim = [] then .error .blank
  else
    match fields text with
    | [] => .error .blank
    | first :: rest => do
      let frames ← readFrames width first
      let draft : Draft := ⟨(ofFrames frames ∅).withWidth columns, .nothing⟩
      let draft ← rest.foldlM Draft.read draft
      return draft.line

/-- Reads a line, whatever the reason if it is no action line. -/
def parse? (columns : Nat) (text : Text) : Option ActionLine := (parse columns text).toOption

end FrameScript.ActionLine
