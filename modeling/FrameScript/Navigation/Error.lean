import FrameScript.Movement

/-!
# Why the caret does not move

A movement fails if there is no line where the caret is or should go, or if whoever moves the
caret in text does not know the movement.
-/

namespace FrameScript

/-- The reason why a movement fails. -/
inductive NavigationError
  /-- There is no line with this number to put the caret on. -/
  | noLine (line : Nat)
  | unsupported (movement : Movement)
deriving DecidableEq, Repr

/-- The reason in words. -/
def NavigationError.message : NavigationError → String
  | noLine line => s!"no valid caret position on line {line}"
  | unsupported movement => s!"movement {movement.name} is not supported here"

end FrameScript
