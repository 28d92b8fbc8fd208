import FrameScript.Movement

/-!
# Commands

What a key may be bound to: a movement of the caret, with what it does to the selection, or the
selection of everything.
-/

namespace FrameScript

/-- What a movement does to the selection. -/
inductive SelectionEffect
  /-- It is dropped. -/
  | drop
  /-- It follows the caret. -/
  | extend
  /-- It becomes a rectangle and follows the caret. -/
  | box
deriving DecidableEq, Repr

/-- A command that a key may be bound to. -/
inductive Command
  | caret (movement : Movement) (effect : SelectionEffect)
  | selectAll
deriving DecidableEq, Repr

end FrameScript
