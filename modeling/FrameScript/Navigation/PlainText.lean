import FrameScript.LineReader
import FrameScript.Navigation.Error
import FrameScript.Text.Column
import FrameScript.Text.WordStop

/-!
# Moving in plain text

In lines that are no action lines the caret moves as in any text. What moves it there is a
`TextMover`; this module has the one for a display of fixed pitch without wrapped lines.

Steps by character go from cluster to cluster, steps by word from word stop to word stop, and both
go on to the next line at the end of a line. Backspace goes back by a single character. Vertical
movements keep to a display cell: the first of them remembers the cell, the following ones use it,
and any other movement forgets it.

## Implementation notes

A mover gives back the remembered cell beside its answer, also when the answer is an error: what
happens to it then is for the caller to decide.

Lines are counted without a bound. Only a page down adds a number that is not bounded by the text,
since a page can have as many lines as the options say. Where line numbers are words of 64 bits
`PageFits` has to be asked for that sum; the other movements have no use for it.
-/

namespace FrameScript

/-- A way to move the caret in text: from a position by a movement, with the display cell
remembered from earlier vertical movements. -/
structure TextMover where
  move : LineReader → Position → Movement → Option Nat →
    Except NavigationError Position × Option Nat

namespace PlainText

/-- The lines that a page usually has. -/
def usualPageLines : Nat := 20

/-- The text of a line that has to be there. -/
def readLine (reader : LineReader) (line : Nat) : Except NavigationError Text :=
  match reader.line? line with
  | some text => .ok text
  | none => .error (.noLine line)

/-! ### Vertical movements -/

/-- The line that a vertical movement leads to; `none` if there is none in that direction. -/
def targetLine? (lineCount pageLines line : Nat) : Movement → Option Nat
  | .lineUp => if 2 ≤ line then some (line - 1) else none
  | .lineDown => if line + 1 ≤ lineCount then some (line + 1) else none
  | .pageUp => some (max (line - pageLines) 1)
  | .pageDown => some (min (line + pageLines) lineCount)
  | _ => none

/-- A page down from the line can be counted: the number of the line and the lines of a page, which
are one at least, have a sum that is a word. -/
def PageFits (line pageLines : Nat) : Prop := line + max pageLines 1 < UInt64.size

instance (line pageLines : Nat) : Decidable (PageFits line pageLines) :=
  inferInstanceAs (Decidable (_ < _))

/-- Moves up or down, keeping to a display cell. -/
def moveVertically (reader : LineReader) (pageLines : Nat) (p : Position) (m : Movement)
    (remembered : Option Nat) : Except NavigationError Position × Option Nat :=
  match readLine reader p.line with
  | .error e => (.error e, remembered)
  | .ok text =>
    let x := remembered.getD (text.cellsBefore p.column)
    match targetLine? reader.lineCount pageLines p.line m with
    | none => (.ok p, some x)
    | some target =>
      ((readLine reader target).map fun text => .of target (text.columnAtCell x), some x)

/-! ### Horizontal movements -/

/-- A stop to the left on the same line, or else the end of the line above. -/
def leftTo (reader : LineReader) (p : Position) (stop : Option Nat) :
    Except NavigationError Position :=
  match stop with
  | some column => .ok (.of p.line column)
  | none =>
    if p.line ≤ 1 then .ok .start
    else (readLine reader (p.line - 1)).map fun text => .of (p.line - 1) text.endColumn

/-- A stop to the right on the same line, or else the start of the line below. At the end of the
text the caret stays on the last slot. -/
def rightTo (reader : LineReader) (p : Position) (stop : Option Nat) :
    Except NavigationError Position :=
  match stop with
  | some column => .ok (.of p.line column)
  | none =>
    if reader.lineCount ≤ p.line then
      (readLine reader p.line).map fun text => .of p.line text.endColumn
    else (readLine reader (p.line + 1)).map fun _ => .of (p.line + 1) 1

/-- The column of the first character that is not blank; column 1 if there is none. -/
def firstVisibleColumn (text : Text) : Nat :=
  match text.findIdx? (! Text.isBlank ·) with
  | some index => index + 1
  | none => 1

/-- Moves by a movement that is not vertical. -/
def moveHorizontally (reader : LineReader) (p : Position) (m : Movement) :
    Except NavigationError Position :=
  match m with
  | .stay => .ok p
  | .documentStart => .ok .start
  | .documentEnd =>
    match reader.position? reader.textLength with
    | some stop => .ok stop
    | none => .error (.noLine p.line)
  | .charLeft => do
    let text ← readLine reader p.line
    leftTo reader p (text.prevClusterStop? (text.moveInto p.column))
  | .backspace => do
    let text ← readLine reader p.line
    let column := text.moveInto p.column
    leftTo reader p (if 2 ≤ column then some (column - 1) else none)
  | .wordLeft => do
    let text ← readLine reader p.line
    leftTo reader p (text.prevWordStop? p.column)
  | .charRight => do
    let text ← readLine reader p.line
    rightTo reader p (text.nextClusterStop? (text.moveInto p.column))
  | .wordRight => do
    let text ← readLine reader p.line
    rightTo reader p (text.nextWordStop? p.column)
  | .lineStart => do
    let text ← readLine reader p.line
    let first := firstVisibleColumn text
    return .of p.line (if p.column = first then 1 else first)
  | .lineEnd => do
    let text ← readLine reader p.line
    return (Position.of p.line text.endColumn).atEnd
  | .lineUp | .lineDown | .pageUp | .pageDown => .error (.unsupported m)

/-! ### The mover -/

/-- The way to move in plain text on pages of so many lines, at least one. -/
def mover (pageLines : Nat) : TextMover where
  move reader p m remembered :=
    if m.isVertical then moveVertically reader (max pageLines 1) p m remembered
    else (moveHorizontally reader p m, none)

end PlainText

end FrameScript
