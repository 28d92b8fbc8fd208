import FrameScript.LineReader
import FrameScript.Span

/-!
# Selections

What is selected: nothing, the text between two positions, or a rectangle of columns. One end, the
anchor, stays where the selection began; the other, the active end, follows the caret.
-/

namespace FrameScript

/-- A rectangle of columns between two corners. -/
structure Rectangle where
  anchor : Position
  active : Position
deriving DecidableEq, Repr

/-- The part of a line that a rectangle covers: the columns from the first up to the second. -/
structure LineSegment where
  line : Nat
  startColumn : Nat
  endColumn : Nat
deriving DecidableEq, Repr

/-- Whether no character is covered. -/
def LineSegment.isEmpty (segment : LineSegment) : Bool := segment.startColumn = segment.endColumn

namespace Rectangle

/-- The first line. -/
def top (r : Rectangle) : Nat := min r.anchor.line r.active.line

/-- The last line. -/
def bottom (r : Rectangle) : Nat := max r.anchor.line r.active.line

/-- The left edge. -/
def left (r : Rectangle) : Nat := min r.anchor.column r.active.column

/-- The right edge. -/
def right (r : Rectangle) : Nat := max r.anchor.column r.active.column

/-- The span from the top left corner to the bottom right one. -/
def span (r : Rectangle) : Span := .ordered (.of r.top r.left) (.of r.bottom r.right)

/-- The covered part of each line of a text that the rectangle meets. Where a line is shorter
than the rectangle its part ends with the line. -/
def segments (r : Rectangle) (reader : LineReader) : List LineSegment :=
  (List.range' r.top (r.bottom + 1 - r.top)).filterMap fun line =>
    (reader.lineLength? line).map fun length =>
      ⟨line, min r.left (length + 1), min r.right (length + 1)⟩

end Rectangle

/-- A selection. -/
inductive Selection
  | none
  /-- The text between two positions. -/
  | simple (anchor active : Position)
  | rectangle (corners : Rectangle)
deriving DecidableEq, Repr

namespace Selection

/-- The selection of the text between two positions, none if they are the same slot. -/
def between (anchor active : Position) : Selection :=
  if anchor.sameSlot active then none else simple anchor active

/-- The selection after the caret went from one position to another: its active end goes along,
and if there was none it begins where the caret was. -/
def extend (selection : Selection) (before after : Position) : Selection :=
  match selection with
  | none => between before after
  | simple anchor _ => between anchor after
  | rectangle corners => rectangle ⟨corners.anchor, after⟩

/-- Whether nothing is selected. A rectangle is empty if it has no columns. -/
def isEmpty : Selection → Bool
  | none => true
  | simple anchor active => anchor.sameSlot active
  | rectangle corners => corners.anchor.column = corners.active.column

/-- The span between the two ends. -/
def span? : Selection → Option Span
  | none => .none
  | simple anchor active => some (.ordered anchor active)
  | rectangle corners => some corners.span

/-- Whether the selection is a rectangle. -/
def isRectangle : Selection → Bool
  | rectangle _ => true
  | _ => false

/-- Anchor and active end. -/
def ends? : Selection → Option (Position × Position)
  | none => .none
  | simple anchor active => some (anchor, active)
  | rectangle corners => some (corners.anchor, corners.active)

/-- The selection between two positions is empty only if they are the same slot. -/
theorem isEmpty_between (anchor active : Position) :
    (between anchor active).isEmpty = anchor.sameSlot active := by
  unfold between
  cases h : anchor.sameSlot active with
  | true => rfl
  | false => simpa [isEmpty] using h

end Selection

end FrameScript
