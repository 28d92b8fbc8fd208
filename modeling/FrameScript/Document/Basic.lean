import FrameScript.Document.LineEnding
import FrameScript.LineReader
import FrameScript.Span
import FrameScript.Text.Lines

/-!
# Documents

A document is a text that can be edited, together with those who want to hear of every edit. Its
positions are lines and columns; a position is valid up to the slot after the last character of
its line, and edits at other positions are refused.

## Implementation notes

The record of what subscribers have been told is part of the document: `deliveries` lists every
edit handed to a subscriber, in order. An edit that is refused leaves the document as it was, that
record included.

The line ending style is that of the text the document was given last. Edits of parts of the text
do not change it.
-/

namespace FrameScript

/-- An edit that has been made, in offsets of the text before it. -/
structure Edit where
  offset : Nat
  /-- How many characters were removed there. -/
  removed : Nat
  /-- How many characters were put in their place. -/
  inserted : Nat
deriving DecidableEq, Repr

/-- An edit that a subscriber has been told of. -/
structure Delivery where
  subscriber : Nat
  edit : Edit
deriving DecidableEq, Repr

/-- Why an edit is refused. -/
inductive EditError
  /-- The document has no such slot. -/
  | noSuchSlot (line column : Nat)
deriving DecidableEq, Repr

/-- The reason in words. -/
def EditError.message : EditError → String
  | noSuchSlot line column => s!"position {line}:{column} is outside the document"

/-- A text with its subscribers. -/
structure Document where
  text : Text
  lineEnding : LineEnding
  /-- The subscribers, in the order in which they came. -/
  subscribers : List Nat
  /-- The number of the next subscriber. -/
  nextSubscriber : Nat
  /-- All that subscribers have been told, oldest first. -/
  deliveries : List Delivery
deriving DecidableEq, Repr

namespace Document

/-- A document with a text and no subscribers. -/
def ofText (text : Text) : Document := ⟨text, .ofText text, [], 0, []⟩

instance : EmptyCollection Document := ⟨ofText []⟩

/-! ### Reading -/

/-- The lines of the text. -/
def lines (doc : Document) : List Text.Line := doc.text.lines

/-- The number of lines. -/
def lineCount (doc : Document) : Nat := doc.lines.length

/-- A line by its number, counted from 1. -/
def line? (doc : Document) (line : Nat) : Option Text.Line :=
  if line = 0 then none else doc.lines[line - 1]?

/-- The offset at which a line starts: the length of the text before it. -/
def lineStart (doc : Document) (line : Nat) : Nat :=
  ((doc.lines.take (line - 1)).flatMap Text.Line.toText).length

/-- The offset of a position. -/
def offset? (doc : Document) (p : Position) : Option Nat :=
  (doc.line? p.line).bind fun line =>
    if p.column = 0 ∨ line.content.length + 1 < p.column then none
    else some (doc.lineStart p.line + p.column - 1)

/-- The position of an offset in some lines, the first of which has the given number. An offset
within a break lies on the line that it ends. -/
def locate (number offset : Nat) : List Text.Line → Option Position
  | [] => none
  | [last] => if offset ≤ last.length then some (.of number (offset + 1)) else none
  | first :: second :: more =>
    if offset < first.length then some (.of number (offset + 1))
    else locate (number + 1) (offset - first.length) (second :: more)

/-- The position of an offset. -/
def position? (doc : Document) (offset : Nat) : Option Position := locate 1 offset doc.lines

/-- Read access to the lines of the document. -/
def reader (doc : Document) : LineReader where
  lineCount := doc.lineCount
  line? line := (doc.line? line).map Text.Line.content
  textLength := doc.text.length
  position? := doc.position?

/-! ### Subscriptions -/

/-- Tells every subscriber of an edit. -/
def tell (doc : Document) (edit : Edit) : Document :=
  { doc with deliveries := doc.deliveries ++ doc.subscribers.map (⟨·, edit⟩) }

/-- Adds a subscriber, and gives its number. -/
def subscribe (doc : Document) : Nat × Document :=
  (doc.nextSubscriber,
    { doc with
      subscribers := doc.subscribers ++ [doc.nextSubscriber]
      nextSubscriber := doc.nextSubscriber + 1 })

/-- Removes a subscriber, and says whether it was there. -/
def unsubscribe (doc : Document) (subscriber : Nat) : Bool × Document :=
  (doc.subscribers.contains subscriber,
    { doc with subscribers := doc.subscribers.filter (· ≠ subscriber) })

/-! ### Editing -/

/-- Replaces the whole text. -/
def setText (doc : Document) (text : Text) : Document :=
  { doc with text, lineEnding := .ofText text }.tell ⟨0, doc.text.length, text.length⟩

/-- The offset of a position that an edit needs. -/
def requireOffset (doc : Document) (p : Position) : Except EditError Nat :=
  match doc.offset? p with
  | some offset => .ok offset
  | none => .error (.noSuchSlot p.line p.column)

/-- The text with the characters between two offsets replaced. -/
def splice (doc : Document) (start stop : Nat) (text : Text) : Text :=
  doc.text.take start ++ text ++ doc.text.drop stop

/-- Replaces the text of a span. -/
def replace (doc : Document) (span : Span) (text : Text) : Except EditError Edit × Document :=
  match doc.requireOffset span.start, doc.requireOffset span.stop with
  | .ok start, .ok stop =>
    let edit : Edit := ⟨start, stop - start, text.length⟩
    (.ok edit, { doc with text := doc.splice start stop text }.tell edit)
  | .ok _, .error e | .error e, _ => (.error e, doc)

/-- Inserts text at a position. -/
def insert (doc : Document) (p : Position) (text : Text) : Except EditError Edit × Document :=
  doc.replace (.point p) text

/-! ### What an edit answers -/

theorem requireOffset_of_some {doc : Document} {p : Position} {offset : Nat}
    (h : doc.offset? p = some offset) : doc.requireOffset p = .ok offset := by
  rw [requireOffset, h]

theorem requireOffset_of_none {doc : Document} {p : Position} (h : doc.offset? p = none) :
    doc.requireOffset p = .error (.noSuchSlot p.line p.column) := by
  rw [requireOffset, h]

/-- An edit between accepted positions is made. -/
theorem replace_of_accepted {doc : Document} {span : Span} {start stop : Nat}
    (hstart : doc.offset? span.start = some start) (hstop : doc.offset? span.stop = some stop)
    (text : Text) :
    doc.replace span text = (.ok ⟨start, stop - start, text.length⟩,
      { doc with text := doc.splice start stop text }.tell ⟨start, stop - start, text.length⟩) := by
  rw [replace, requireOffset_of_some hstart, requireOffset_of_some hstop]

/-- An edit is refused for its start first. -/
theorem replace_of_start_refused {doc : Document} {span : Span}
    (hstart : doc.offset? span.start = none) (text : Text) :
    doc.replace span text = (.error (.noSuchSlot span.start.line span.start.column), doc) := by
  rw [replace, requireOffset_of_none hstart]

theorem replace_of_stop_refused {doc : Document} {span : Span} {start : Nat}
    (hstart : doc.offset? span.start = some start) (hstop : doc.offset? span.stop = none)
    (text : Text) :
    doc.replace span text = (.error (.noSuchSlot span.stop.line span.stop.column), doc) := by
  rw [replace, requireOffset_of_some hstart, requireOffset_of_none hstop]

/-! ### What operations leave as it is -/

@[simp] theorem text_tell (doc : Document) (edit : Edit) : (doc.tell edit).text = doc.text := rfl

/-- An edit that is refused leaves the document as it was. -/
theorem replace_of_error {doc : Document} {span : Span} {text : Text} {e : EditError}
    (h : (doc.replace span text).1 = .error e) : (doc.replace span text).2 = doc := by
  unfold replace at h ⊢
  split <;> simp_all

theorem line?_eq_none_iff {doc : Document} {line : Nat} :
    doc.line? line = none ↔ line = 0 ∨ doc.lineCount < line := by
  unfold line? lineCount
  split
  · simp_all
  · rw [List.getElem?_eq_none_iff]
    omega

end Document

end FrameScript
