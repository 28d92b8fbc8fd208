import FrameScript.Movement
import FrameScript.Text.Basic

/-!
# Steps within angle and magnitude

Right of the letter of feather stand numbers, and there the caret walks through the text of the
line. A field reaches from one comma to the next; steps by word stop at its two edges and on
either side of the first point in it, steps by character at every column. At an edge either step
goes on by one column, over the comma.

## Implementation notes

Columns may lie beyond the text, which then counts as continued without commas. No column is
examined that is not between the two edges.
-/

namespace FrameScript.Payload

/-- The left edge of the field at a column: the column after the last comma before it. -/
def leftEdge (raw : Text) (column : Nat) : Nat :=
  ((raw.take (column - 1)).reverse.dropWhile (· ≠ ',')).length + 1

/-- The right edge of the field at a column: the column of the first comma that is not before it,
or the end of the text. -/
def rightEdge (raw : Text) (column : Nat) : Nat :=
  column + ((raw.drop (column - 1)).takeWhile (· ≠ ',')).length

/-- The column of the first point of the field at a column. -/
def point? (raw : Text) (column : Nat) : Option Nat :=
  let left := leftEdge raw column
  let field := (raw.drop (left - 1)).take (rightEdge raw column - left)
  (field.findIdx? (· = '.')).map (left + ·)

/-- The column that a step to the left or right leads to; other movements stay. -/
def step (raw : Text) (column : Nat) : Movement → Nat
  | .charLeft => column - 1
  | .charRight => column + 1
  | .wordLeft =>
    let left := leftEdge raw column
    if column = left then column - 1
    else
      match point? raw column with
      | some point => if point < column then point else left
      | none => left
  | .wordRight =>
    let right := rightEdge raw column
    if column = right then column + 1
    else
      match point? raw column with
      | some point => if column ≤ point then point + 1 else right
      | none => right
  | _ => column

end FrameScript.Payload
