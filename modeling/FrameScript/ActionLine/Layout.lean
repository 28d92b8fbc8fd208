import FrameScript.ActionLine.Basic

/-!
# Where things stand on an action line

Columns of the canonical text, counted from 1, without writing it. The column after the frame
count field is the *boundary*. Each input takes two columns after it, a comma and its letter; the
column right of the letter is the *edge* of the input. Right of the last edge stand angle and
magnitude, which take as many columns as they need.
-/

namespace FrameScript

/-- The number of decimal digits of a number; zero has one. -/
def digitCount (n : Nat) : Nat := (Decimal.wholeText n).length

namespace ActionLine

/-- The digits of the frame count. -/
def digits (line : ActionLine) : Nat := digitCount line.frames

/-- The spaces before the frame count. -/
def leadingSpaces (line : ActionLine) : Nat := line.width.columns - line.digits

/-- The column of the first digit of the frame count. -/
def firstDigit (line : ActionLine) : Nat := line.leadingSpaces + 1

/-- The column between frame count and inputs. -/
def boundary (line : ActionLine) : Nat := line.width.columns + 1

/-- The number of inputs. -/
def tokenCount (line : ActionLine) : Nat := line.inputs.size

/-- The column after so many inputs. -/
def edge (line : ActionLine) (count : Nat) : Nat := line.boundary + 2 * count

/-- The edges of all inputs. -/
def edges (line : ActionLine) : List Nat := (List.range' 1 line.tokenCount).map line.edge

/-- The last edge, or the boundary if there are no inputs. -/
def lastEdge (line : ActionLine) : Nat := line.edge line.tokenCount

/-- The edge of an input. -/
def edgeOf? (line : ActionLine) (i : Input) : Option Nat :=
  (line.inputs.position? i).map fun place => line.edge (place + 1)

end ActionLine

end FrameScript
