import FrameScript.ActionLine.Adjacent

/-!
# Regions of an action line

Where on an action line a slot lies decides how far a step goes: in the frame count, at the
boundary, at the edge of an input, at the edge of feather, or in the numbers after it.
-/

namespace FrameScript

/-- Where a slot of an action line lies. -/
inductive Region
  | digits
  | boundary
  | token
  | feather
  | payload
deriving DecidableEq, Repr

/-- The region of a slot. Beyond the boundary it is told by the input whose letter stands to the
left. -/
def ActionLine.region (line : ActionLine) (column : Nat) : Region :=
  if column < line.boundary then .digits
  else if column = line.boundary then .boundary
  else
    let left := line.adjacent column .charLeft
    if left.isEmpty then .payload
    else if left = .single .feather then .feather
    else .token

end FrameScript
