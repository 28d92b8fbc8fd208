import FrameScript.Proofs.Document.Offset
import FrameScript.Proofs.Document.Requests

/-!
# Edits are splices

An edit between two positions that the document accepts takes out the characters between their
offsets, puts the new text in their place, and is told to every subscriber once. The offsets stand
in the order of the positions, so that there is never less than nothing to take out. An edit that
needs another position is refused for the first of its ends that is not accepted, and nothing
happens at all.

## Main definitions

* `Document.IsSplice` — the document after an edit that has been made

## Main results

* `Document.isSplice_replace` — what an edit that is made does to the document
* `Document.replace_splices_or_refuses` — every edit, in every run
-/

namespace FrameScript

namespace Document

variable {doc : Document} {span : Span} {start stop : Nat}

/-- The second document is the first one after its characters between two offsets have been
replaced by a text, and every subscriber has been told of that once. -/
structure IsSplice (doc : Document) (start stop : Nat) (text : Text) (after : Document) : Prop where
  text_eq : after.text = doc.text.take start ++ text ++ doc.text.drop stop
  length_eq : (after.text.length : Int) - doc.text.length = text.length - ((stop : Int) - start)
  heard_eq : ∀ subscriber, after.heard subscriber = doc.heard subscriber ++
    if subscriber ∈ doc.subscribers then [⟨start, stop - start, text.length⟩] else []

theorem length_splice (hle : start ≤ stop) (hstop : stop ≤ doc.text.length) (text : Text) :
    (doc.splice start stop text).length + (stop - start) = doc.text.length + text.length := by
  rw [splice, List.length_append, List.length_append, List.length_take, List.length_drop]
  omega

/-- **What an edit does.** No subscriber hears of it twice if numbers are given only once. -/
theorem isSplice_replace (h : doc.Numbered) (hstart : doc.offset? span.start = some start)
    (hstop : doc.offset? span.stop = some stop) (text : Text) :
    IsSplice doc start stop text (doc.replace span text).2 := by
  have hle : start ≤ stop := offset?_mono span.start_le_stop hstart hstop
  have hlength := length_splice hle (offset?_le hstop) text
  have hspliced : Numbered { doc with text := doc.splice start stop text } := h.of_eq rfl rfl
  rw [replace_of_accepted hstart hstop]
  exact
    { text_eq := rfl
      length_eq := by
        show ((doc.splice start stop text).length : Int) - doc.text.length = _
        omega
      heard_eq := fun subscriber => hspliced.heard_tell _ subscriber }

/-- **Every edit** splices the text or is refused. Between two positions that the document accepts
it replaces what is between their offsets and says where it did so. Otherwise it names the first
end of the span that is not accepted, and the document is what it was, those told of edits and
what they were told included. -/
theorem replace_splices_or_refuses (h : doc.Reachable) (p q : Position) (text : Text) :
    (∀ start stop, doc.offset? (Span.ordered p q).start = some start →
      doc.offset? (Span.ordered p q).stop = some stop →
      start ≤ stop ∧ stop ≤ doc.text.length ∧
        ∃ after, doc.replace (.ordered p q) text =
          (.ok ⟨start, stop - start, text.length⟩, after) ∧ IsSplice doc start stop text after) ∧
    (doc.offset? (Span.ordered p q).start = none →
      doc.replace (.ordered p q) text =
        (.error (.noSuchSlot (Span.ordered p q).start.line (Span.ordered p q).start.column), doc)) ∧
    ((doc.offset? (Span.ordered p q).start).isSome →
      doc.offset? (Span.ordered p q).stop = none →
      doc.replace (.ordered p q) text =
        (.error (.noSuchSlot (Span.ordered p q).stop.line (Span.ordered p q).stop.column), doc)) ∧
    doc.insert p text = doc.replace (.ordered p p) text := by
  refine ⟨fun start stop hstart hstop => ?_, fun hstart => ?_, fun hstart hstop => ?_, ?_⟩
  · refine ⟨offset?_mono (Span.ordered p q).start_le_stop hstart hstop, offset?_le hstop, _, ?_,
      isSplice_replace h.numbered hstart hstop text⟩
    rw [replace_of_accepted hstart hstop]
  · exact replace_of_start_refused hstart text
  · obtain ⟨start, hstart⟩ := Option.isSome_iff_exists.mp hstart
    exact replace_of_stop_refused hstart hstop text
  · rw [Span.ordered_self, insert]

/-- With the ends named in the wrong order, over a break of two characters, and somebody there to
hear of it. -/
theorem replace_over_break :
    ∃ doc : Document, doc.Reachable ∧ doc.text = "15,R\r\nword".toList ∧ doc.subscribers = [0] ∧
      ∃ after, doc.replace (.ordered (.of 2 3) (.of 1 2)) ['x'] = (.ok ⟨1, 7, 1⟩, after) ∧
        after.text = "1xrd".toList ∧ after.heard 0 = [⟨1, 7, 1⟩] ∧ after.heard 1 = [] := by
  have hreachable : ((ofText "15,R\r\nword".toList).handle .subscribe).Reachable :=
    (Reachable.ofText _).handle .subscribe
  obtain ⟨-, -, after, hreplace, hsplice⟩ :=
    (replace_splices_or_refuses hreachable (.of 2 3) (.of 1 2) ['x']).1 1 8
      (by decide +kernel) (by decide +kernel)
  refine ⟨_, hreachable, rfl, rfl, after, hreplace, hsplice.text_eq.trans (by decide +kernel),
    hsplice.heard_eq 0, hsplice.heard_eq 1⟩

end Document

end FrameScript
