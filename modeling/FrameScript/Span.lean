import FrameScript.Position

/-!
# Spans of a document

A span runs from one position up to another that is not before it; it holds the characters between
the two slots. `Span.ordered` makes one from two positions in any order.
-/

namespace FrameScript

/-- A stretch of a document, its start included and its end not. -/
structure Span where
  start : Position
  stop : Position
  start_le_stop : start ≤ stop

namespace Span

/-- The span between two positions. -/
def ordered (p q : Position) : Span :=
  if h : p ≤ q then ⟨p, q, h⟩ else ⟨q, p, (Position.le_total p q).resolve_left h⟩

/-- The span without extent at a position. -/
def point (p : Position) : Span := ⟨p, p, Position.le_refl p⟩

/-- Whether start and stop are the same slot. -/
def isEmpty (s : Span) : Bool := s.start.sameSlot s.stop

/-- The number of lines touched, at least one. -/
def lineCount (s : Span) : Nat := s.stop.line - s.start.line + 1

/-- Whether a position lies in the span. -/
def contains (s : Span) (p : Position) : Bool := s.start ≤ p && p < s.stop

/-- Whether two spans have the same slots as ends. -/
def sameSlots (s t : Span) : Bool := s.start.sameSlot t.start && s.stop.sameSlot t.stop

/-- Start and stop, marked as a range. -/
def debug (s : Span) : String := s!"Range({s.start.display} .. {s.stop.display})"

/-- A point is the span between a position and itself. -/
theorem ordered_self (p : Position) : ordered p p = point p := by
  simp [ordered, point, Position.le_refl]

end Span

end FrameScript
