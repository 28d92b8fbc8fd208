import FrameScript.Proofs.Document.Requests
import FrameScript.Proofs.Document.Reader
import FrameScript.Proofs.Text.Lines

/-!
# The lines of a document

The lines that a document shows, with one break between any two that follow each other, are its
text, to the last character. Which lines these are is a matter of the text only, whatever edits
have led to it: a line feed that is put behind a carriage return joins the two to one break, and
what is put between them makes two breaks of one.

## Main results

* `Document.lines_partition_text` — lines and breaks are the text, and no others are
-/

namespace FrameScript

namespace Document

/-- **Lines partition the text.** A document has the lines that it counts. There is a list of
breaks with one between any two lines that follow each other, so that lines and breaks in turn are
the text. No line holds a character of a break, and each loses its break and nothing else with the
characters at its end that end lines. No other lines and breaks divide the text. -/
theorem lines_partition_text (doc : Document) :
    (∀ n, (∃ raw, doc.reader.line? n = some raw) ↔ 1 ≤ n ∧ n ≤ doc.reader.lineCount) ∧
    ∃ contents endings : List Text,
      (∀ n, doc.reader.line? (n + 1) = contents[n]?) ∧
      Text.Divides contents endings doc.text ∧
      contents.flatten.length + endings.flatten.length = doc.text.length ∧
      (∀ (n : Nat) (content ending : Text), contents[n]? = some content →
        (endings ++ [[]])[n]? = some ending →
          (content ++ ending).rdropWhile Text.isBreak = content) ∧
      ∀ contents' endings', Text.Divides contents' endings' doc.text →
        contents' = contents ∧ endings' = endings := by
  refine ⟨doc.isFaithful_reader, doc.lines.map Text.Line.content,
    doc.lines.dropLast.map Text.Line.ending, fun n => ?_, ?_⟩
  · rw [List.getElem?_map, line?_reader, line?, if_neg (Nat.succ_ne_zero n), Nat.add_sub_cancel]
  · have hdivides : Text.Divides (doc.lines.map Text.Line.content)
        (doc.lines.dropLast.map Text.Line.ending) doc.text := Text.divides_iff.mpr ⟨rfl, rfl⟩
    exact ⟨hdivides, hdivides.length_flatten, fun n content ending => hdivides.rdropWhile_append,
      fun contents' endings' => Text.Divides.eq_lines⟩

/-- What stands between a carriage return and a line feed is taken out, and two lines go with it. -/
theorem lines_partition_after_joining :
    ∃ doc : Document, doc.Reachable ∧ doc.text = "a\r\nb".toList ∧ doc.lineCount = 2 ∧
      ∀ n, doc.reader.line? (n + 1) = [['a'], ['b']][n]? := by
  have hreachable : ((ofText "a\rx\nb".toList).handle
      (.replace (.ordered (.of 2 1) (.of 2 2)) [])).Reachable := (Reachable.ofText _).handle _
  obtain ⟨-, contents, endings, hlines, -, -, -, hunique⟩ := lines_partition_text
    ((ofText "a\rx\nb".toList).handle (.replace (.ordered (.of 2 1) (.of 2 2)) []))
  obtain ⟨rfl, -⟩ := hunique [['a'], ['b']] [['\r', '\n']]
    (Text.divides_iff.mpr (by decide +kernel))
  exact ⟨_, hreachable, by decide +kernel, by decide +kernel, hlines⟩

end Document

end FrameScript
