/-!
# Movements of the caret

What a navigation key asks of the caret. A movement is vertical, leftward, rightward or none of
these; the classes decide how the remembered column is treated and where a line wraps.
-/

namespace FrameScript

/-- A request to move the caret. -/
inductive Movement
  | stay
  | charLeft
  | charRight
  | wordLeft
  | wordRight
  | lineUp
  | lineDown
  | pageUp
  | pageDown
  | lineStart
  | lineEnd
  | documentStart
  | documentEnd
  /-- The step to the left that deletes what it walks over. -/
  | backspace
deriving DecidableEq, Repr

namespace Movement

/-- Every movement. -/
def all : List Movement :=
  [stay, charLeft, charRight, wordLeft, wordRight, lineUp, lineDown, pageUp, pageDown, lineStart,
    lineEnd, documentStart, documentEnd, backspace]

/-- Whether the movement goes up or down by lines or pages. -/
def isVertical : Movement → Bool
  | lineUp | lineDown | pageUp | pageDown => true
  | _ => false

/-- Whether the movement goes left within a line, and from the start of a line to the line
above. -/
def isLeftward : Movement → Bool
  | charLeft | wordLeft | backspace => true
  | _ => false

/-- Whether the movement goes right within a line, and from the end of a line to the line
below. -/
def isRightward : Movement → Bool
  | charRight | wordRight => true
  | _ => false

/-- The name of a movement in messages. -/
def name : Movement → String
  | stay => "None"
  | charLeft => "CharLeft"
  | charRight => "CharRight"
  | wordLeft => "WordLeft"
  | wordRight => "WordRight"
  | lineUp => "LineUp"
  | lineDown => "LineDown"
  | pageUp => "PageUp"
  | pageDown => "PageDown"
  | lineStart => "LineStart"
  | lineEnd => "LineEnd"
  | documentStart => "DocumentStart"
  | documentEnd => "DocumentEnd"
  | backspace => "Backspace"

theorem mem_all (m : Movement) : m ∈ all := by cases m <;> decide

theorem isRightward_iff {m : Movement} : m.isRightward = true ↔ m = charRight ∨ m = wordRight := by
  cases m <;> decide

theorem isLeftward_iff {m : Movement} :
    m.isLeftward = true ↔ m = charLeft ∨ m = wordLeft ∨ m = backspace := by
  cases m <;> decide

/-- A movement does not go to both sides. -/
theorem isLeftward_of_isRightward {m : Movement} (h : m.isRightward = true) :
    m.isLeftward = false := by
  rcases isRightward_iff.mp h with rfl | rfl <;> rfl

theorem isRightward_of_isLeftward {m : Movement} (h : m.isLeftward = true) :
    m.isRightward = false := by
  rcases isLeftward_iff.mp h with rfl | rfl | rfl <;> rfl

end Movement

end FrameScript
