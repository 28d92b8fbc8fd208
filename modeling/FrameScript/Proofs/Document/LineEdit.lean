import FrameScript.Proofs.Document.Location

/-!
# Edits within a line

An edit whose ends lie on one line, and that puts in no character that ends lines, changes the text
of that line and leaves all other lines and all breaks as they are. There is one exception, which is
why the line must not become empty: the break before it and its own could then be one, a carriage
return and the line feed behind it.

## Main definitions

* `Document.DiffersAt` — documents that differ in the text of one line

## Main results

* `Document.DiffersAt.line?_eq` — what the readers of two such documents answer
* `Document.replace_within_line` — an edit within a line, and the document after it
-/

namespace FrameScript

theorem Span.ordered_of_le {p q : Position} (h : p ≤ q) : Span.ordered p q = ⟨p, q, h⟩ := dif_pos h

namespace Document

variable {doc doc' : Document} {line : Text.Line} {p q : Position} {n start stop : Nat}
  {raw raw' text : Text}

/-- The documents differ in the text of one line and in nothing else. -/
def DiffersAt (doc doc' : Document) (line : Nat) (raw raw' : Text) : Prop :=
  ∃ ending, doc.line? line = some ⟨raw, ending⟩ ∧
    doc'.lines = doc.lines.set (line - 1) ⟨raw', ending⟩

/-- In documents that differ at a line, all other lines are the same. -/
theorem DiffersAt.line?_eq (h : doc.DiffersAt doc' n raw raw') :
    doc'.lineCount = doc.lineCount ∧
      (∀ k, k ≠ n → doc'.reader.line? k = doc.reader.line? k) ∧
      doc.reader.line? n = some raw ∧ doc'.reader.line? n = some raw' := by
  obtain ⟨ending, hline, hlines⟩ := h
  have hbounds := exists_line?_iff.mp ⟨_, hline⟩
  refine ⟨?_, ?_, ?_, ?_⟩
  · rw [lineCount, hlines, List.length_set]
    rfl
  · intro k hk
    rw [line?_reader, line?_reader, line?, line?, hlines]
    split
    · rfl
    · rw [List.getElem?_set_ne (by omega)]
  · rw [line?_reader, hline]
    rfl
  · rw [line?_reader, line?, if_neg (by omega), hlines,
      List.getElem?_set_self (Nat.sub_one_lt_of_le hbounds.1 hbounds.2)]
    rfl

/-- The text of a document around one of its lines. -/
theorem text_around_line (hline : doc.line? n = some line) :
    doc.text = (doc.lines.take (n - 1)).flatMap Text.Line.toText ++
      (line.content ++ (line.ending ++ (doc.lines.drop (n - 1 + 1)).flatMap Text.Line.toText)) := by
  have htext : doc.lines.flatMap Text.Line.toText = doc.text := doc.text.flatMap_lines
  obtain ⟨-, hget⟩ := line?_eq_some_iff.mp hline
  obtain ⟨hindex, rfl⟩ := List.getElem?_eq_some_iff.mp hget
  rw [← htext]
  nth_rewrite 1 [← List.take_append_drop (n - 1) doc.lines]
  rw [List.drop_eq_getElem_cons hindex, List.flatMap_append, List.flatMap_cons, Text.Line.toText,
    List.append_assoc]

/-- A splice within a line is a splice of its text. -/
theorem splice_within_line (hline : doc.line? n = some line) (hle : start ≤ stop)
    (hstop : stop ≤ line.content.length) (text : Text) :
    doc.splice (doc.lineStart n + start) (doc.lineStart n + stop) text =
      (doc.lines.set (n - 1)
        ⟨line.content.take start ++ text ++ line.content.drop stop, line.ending⟩).flatMap
          Text.Line.toText := by
  obtain ⟨hindex, -⟩ := List.getElem?_eq_some_iff.mp (line?_eq_some_iff.mp hline).2
  rw [splice, text_around_line hline, lineStart, List.take_length_add_append,
    List.drop_length_add_append, List.take_append_of_le_length (Nat.le_trans hle hstop),
    List.drop_append_of_le_length hstop, List.set_eq_take_append_cons_drop, if_pos hindex,
    List.flatMap_append, List.flatMap_cons, Text.Line.toText]
  simp only [List.append_assoc]

/-- **An edit within a line** changes that line and no other. -/
theorem replace_within_line (hline : doc.line? n = some line) (hp : p.line = n) (hq : q.line = n)
    (hfirst : 1 ≤ p.column) (hle : p.column ≤ q.column) (hlast : q.column ≤ line.content.length + 1)
    (htext : ∀ c ∈ text, Text.isBreak c = false)
    (hne : line.content.take (p.column - 1) ++ text ++ line.content.drop (q.column - 1) ≠ []) :
    ∃ edit after, doc.replace (.ordered p q) text = (.ok edit, after) ∧
      edit.removed = q.column - p.column ∧
      doc.DiffersAt after n line.content
        (line.content.take (p.column - 1) ++ text ++ line.content.drop (q.column - 1)) := by
  obtain ⟨hone, hget⟩ := line?_eq_some_iff.mp hline
  have hstart : doc.offset? p = some (doc.lineStart n + (p.column - 1)) :=
    offset?_eq_some_iff.mpr ⟨line, hp ▸ hline, by omega, by rw [hp]; omega⟩
  have hstop : doc.offset? q = some (doc.lineStart n + (q.column - 1)) :=
    offset?_eq_some_iff.mpr ⟨line, hq ▸ hline, by omega, by rw [hq]; omega⟩
  -- what is left of the line holds no break, and neither does what is put in
  have hcontent : ∀ c ∈ line.content.take (p.column - 1) ++ text ++
      line.content.drop (q.column - 1), Text.isBreak c = false := by
    have hline := (content_and_ending hline).1
    intro c hc
    rcases List.mem_append.mp hc with hc | hc
    · rcases List.mem_append.mp hc with hc | hc
      · exact hline c (List.mem_of_mem_take hc)
      · exact htext c hc
    · exact hline c (List.mem_of_mem_drop hc)
  have hlines := ((Text.areLines_lines doc.text).set hget hcontent hne).lines_flatMap
  have hremoved : doc.lineStart n + (q.column - 1) - (doc.lineStart n + (p.column - 1)) =
      q.column - p.column := by omega
  rw [Span.ordered_of_le (Or.inr ⟨hp.trans hq.symm, hle⟩), replace_of_accepted hstart hstop]
  refine ⟨_, _, rfl, hremoved, line.ending, hline, ?_⟩
  rw [lines, text_tell, splice_within_line hline (Nat.sub_le_sub_right hle 1) (by omega)]
  exact hlines

end Document

end FrameScript
