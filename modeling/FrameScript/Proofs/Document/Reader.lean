import FrameScript.Document.Basic

/-!
# What the reader of a document answers

A reader owes nothing to anybody, but that of a document answers in agreement with itself: it has
the lines that it counts, there is at least one, and edits are accepted at the slots of these lines.

## Main definitions

* `LineReader.IsFaithful` — the reader has the lines that it counts
* `LineReader.Admits` — a position at certain columns of the lines
* `LineReader.HasSlot` — a position before a character of one of the lines, or after the last

## Main results

* `Document.isFaithful_reader` — that of a document does
* `Document.offset?_eq_some_iff`, `Document.isSome_offset?_iff` — the positions that edits accept
-/

namespace FrameScript

/-- The reader has the lines that it counts and no others. -/
def LineReader.IsFaithful (reader : LineReader) : Prop :=
  ∀ line, (∃ raw, reader.line? line = some raw) ↔ 1 ≤ line ∧ line ≤ reader.lineCount

/-- The position lies on a line that the reader has, at a column that is allowed on such a line. -/
def LineReader.Admits (reader : LineReader) (allowed : Text → Nat → Prop) (p : Position) : Prop :=
  ∃ raw, reader.line? p.line = some raw ∧ allowed raw p.column

namespace Document

variable {doc : Document}

/-! ### Lines -/

theorem line?_reader (doc : Document) (line : Nat) :
    doc.reader.line? line = (doc.line? line).map Text.Line.content := rfl

theorem exists_line?_iff {n : Nat} :
    (∃ line, doc.line? n = some line) ↔ 1 ≤ n ∧ n ≤ doc.lineCount := by
  rw [← Option.isSome_iff_exists, Option.isSome_iff_ne_none, ne_eq, line?_eq_none_iff]
  omega

theorem isFaithful_reader (doc : Document) : doc.reader.IsFaithful := by
  intro line
  rw [← Option.isSome_iff_exists, line?_reader, Option.isSome_map, Option.isSome_iff_exists]
  exact exists_line?_iff

/-- Every text has a line. -/
theorem one_le_lineCount (doc : Document) : 1 ≤ doc.lineCount :=
  List.length_pos_iff.mpr (Text.lines_ne_nil doc.text)

/-! ### Positions that edits accept -/

/-- The offset of a slot stands between the start of its line and the break after it. -/
theorem offset?_eq_some_iff {p : Position} {offset : Nat} :
    doc.offset? p = some offset ↔ ∃ line, doc.line? p.line = some line ∧
      (1 ≤ p.column ∧ p.column ≤ line.content.length + 1) ∧
        doc.lineStart p.line + p.column = offset + 1 := by
  rw [offset?, Option.bind_eq_some_iff]
  refine exists_congr fun line => and_congr_right fun _ => ?_
  split
  · rename_i hout
    simp only [reduceCtorEq, false_iff]
    omega
  · rename_i hin
    rw [Option.some.injEq]
    omega

/-- A position is accepted up to the slot after the last character of its line. -/
theorem isSome_offset?_iff {p : Position} :
    (doc.offset? p).isSome = true ↔
      ∃ raw, doc.reader.line? p.line = some raw ∧ 1 ≤ p.column ∧ p.column ≤ raw.length + 1 := by
  simp only [Option.isSome_iff_exists, offset?_eq_some_iff, line?_reader, Option.map_eq_some_iff]
  constructor
  · rintro ⟨offset, line, hline, hcolumn, -⟩
    exact ⟨line.content, ⟨line, hline, rfl⟩, hcolumn⟩
  · rintro ⟨raw, ⟨line, hline, rfl⟩, hcolumn⟩
    exact ⟨doc.lineStart p.line + p.column - 1, line, hline, hcolumn, by omega⟩

/-- An edit whose ends are both accepted is made. -/
theorem exists_replace_ok {span : Span} (hstart : (doc.offset? span.start).isSome = true)
    (hstop : (doc.offset? span.stop).isSome = true) (text : Text) :
    ∃ edit, (doc.replace span text).1 = .ok edit := by
  obtain ⟨start, hstart⟩ := Option.isSome_iff_exists.mp hstart
  obtain ⟨stop, hstop⟩ := Option.isSome_iff_exists.mp hstop
  rw [replace_of_accepted hstart hstop]
  exact ⟨_, rfl⟩

end Document

end FrameScript
