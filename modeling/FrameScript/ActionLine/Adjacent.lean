import FrameScript.ActionLine.Layout
import FrameScript.ActionLine.Printer
import FrameScript.Movement

/-!
# Inputs next to a column

Which inputs a movement would walk over on an action line, read off the canonical text: the caret
asks for the letter just left of it, the letter after the next comma, or all letters on one side.
A letter belongs to the column right of it, its edge.
-/

namespace FrameScript.ActionLine

/-- Whether a movement from a column looks at the letter with the given edge. Looking left
requires a column beyond the boundary, looking right one that is not before it, and letters are
two columns apart. -/
def looksAt (line : ActionLine) (column : Nat) (m : Movement) (edge : Nat) : Bool :=
  match m with
  | .charLeft | .backspace => line.boundary < column && edge = column
  | .charRight => line.boundary ≤ column && edge = column + 2
  | .wordLeft => line.boundary < edge && edge ≤ column && edge % 2 = column % 2
  | .wordRight => line.boundary ≤ column && column < edge && edge % 2 = column % 2
  | _ => false

/-- The inputs that a movement from a column looks at. -/
def adjacent (line : ActionLine) (column : Nat) (m : Movement) : InputSet :=
  .ofList (line.render.zipIdx.filterMap fun (c, index) =>
    if line.looksAt column m (index + 2) then Input.ofLetter? c else none)

end FrameScript.ActionLine
