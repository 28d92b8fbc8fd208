import FrameScript.ActionLine.Layout

/-!
# Caret slots of an action line

On an action line the caret rests only where editing makes sense: before, between and after the
digits of the frame count, at the edges of the inputs, and anywhere from the edge of feather on.
`IsSlot` says which columns these are, and `snap` moves any column to one of them.
-/

namespace FrameScript.ActionLine

/-- Whether the caret may rest at a column. -/
def IsSlot (line : ActionLine) (column : Nat) : Prop :=
  (line.firstDigit ≤ column ∧ column ≤ line.boundary) ∨ column ∈ line.edges ∨
    ∃ edge, line.edgeOf? .feather = some edge ∧ edge ≤ column

/-- The slot a column belongs to. Columns of the frame count field move between its digits,
columns of inputs to the next edge or back to the last, and from the edge of feather on every
column stays. -/
def snap (line : ActionLine) (column : Nat) : Nat :=
  let column := max column 1
  if column ≤ line.boundary then
    max line.firstDigit (min column (line.firstDigit + line.digits))
  else if (line.edgeOf? .feather).any (· ≤ column) then column
  else (line.edges.find? (column ≤ ·)).getD line.lastEdge

end FrameScript.ActionLine
