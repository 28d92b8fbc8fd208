import FrameScript.Proofs.Document.Reader

/-!
# Offsets of positions

The lines of a document stand one after the other in its text, each with its break. So a line
starts where the one above it ends, the slots of a line stand between its start and its break, and
a position that is not before another has no smaller offset.

## Main results

* `Document.lineStart_add_length` — a line starts where the one above it ends
* `Document.offset?_le` — offsets stay inside the text
* `Document.offset?_mono` — offsets keep the order of positions
-/

namespace FrameScript

namespace Document

variable {doc : Document} {p q : Position} {line : Text.Line} {m n start stop offset : Nat}

/-! ### Where lines start -/

/-- A line starts where the one above it ends. -/
theorem lineStart_add_length (hline : doc.line? n = some line) :
    doc.lineStart n + line.length = doc.lineStart (n + 1) := by
  have hne : n ≠ 0 := by
    rintro rfl
    cases hline
  obtain ⟨index, rfl⟩ := Nat.exists_eq_succ_of_ne_zero hne
  rw [line?, if_neg hne, Nat.succ_sub_one] at hline
  rw [lineStart, lineStart, Nat.succ_sub_one, Nat.add_sub_cancel, List.take_add_one, hline,
    Option.toList_some, List.flatMap_append, List.length_append, List.flatMap_singleton,
    Text.Line.length_toText]

theorem lineStart_mono (doc : Document) (hle : m ≤ n) : doc.lineStart m ≤ doc.lineStart n := by
  obtain ⟨more, hmore⟩ :=
    List.take_prefix_take_left (l := doc.lines) (Nat.sub_le_sub_right hle 1)
  rw [lineStart, lineStart, ← hmore, List.flatMap_append, List.length_append]
  exact Nat.le_add_right ..

theorem lineStart_le_length (doc : Document) (n : Nat) : doc.lineStart n ≤ doc.text.length := by
  have htext : doc.lines.flatMap Text.Line.toText = doc.text := doc.text.flatMap_lines
  rw [lineStart, ← htext, ← List.take_append_drop (n - 1) doc.lines, List.flatMap_append,
    List.length_append, List.take_append_drop]
  exact Nat.le_add_right ..

/-! ### Offsets -/

/-- **Offsets stay inside** the text. -/
theorem offset?_le (h : doc.offset? p = some offset) : offset ≤ doc.text.length := by
  obtain ⟨line, hline, hcolumn, hoffset⟩ := offset?_eq_some_iff.mp h
  have hnext := lineStart_add_length hline
  have hend := doc.lineStart_le_length (p.line + 1)
  rw [Text.Line.length] at hnext
  omega

/-- **Offsets keep the order** of positions, whatever the breaks between their lines. -/
theorem offset?_mono (hle : p ≤ q) (hstart : doc.offset? p = some start)
    (hstop : doc.offset? q = some stop) : start ≤ stop := by
  obtain ⟨line, hline, hcolumn, hstart⟩ := offset?_eq_some_iff.mp hstart
  obtain ⟨line', -, hcolumn', hstop⟩ := offset?_eq_some_iff.mp hstop
  rcases Position.le_iff.mp hle with hbelow | ⟨hsame, hright⟩
  · have hnext := lineStart_add_length hline
    have hbetween : doc.lineStart (p.line + 1) ≤ doc.lineStart q.line := doc.lineStart_mono hbelow
    rw [Text.Line.length] at hnext
    omega
  · rw [hsame] at hstart
    omega

end Document

end FrameScript
