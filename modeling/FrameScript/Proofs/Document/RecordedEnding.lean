import FrameScript.Proofs.Document.Deliveries
import FrameScript.Proofs.Document.Location

/-!
# The line ending that a document records

A document looks for the line ending of its text when it is given the text as a whole, and records
it. Edits do not look again. What they do to the text is another matter: the first line feed or
carriage return of a text decides which ending it begins with, so an edit behind that one leaves the
record right, unless it moves a line feed up to a carriage return, and an edit in front of it can
put any other before it.

## Main definitions

* `LineEnding.Occurs` — a text has a line feed or a carriage return
* `LineEnding.Joins` — the first ending of a text is a carriage return at its end, and a line feed
  comes next
* `Document.RecordsEnding` — the recorded line ending is that of the text
* `Document.givenText` — the text that was given last as a whole

## Main results

* `LineEnding.ofText_append_of_not_occurs`, `LineEnding.ofText_append_eq_iff` — which part of a
  text decides about its line ending
* `Document.lineEnding_handleAll` — what is recorded after a run
* `Document.recordsEnding_replace_iff` — which edits leave the record right
* `Document.recorded_ending_right_iff` — both
-/

namespace FrameScript

namespace LineEnding

variable {front rest : Text} {c : Char}

/-- The text has one of the characters that tell line endings apart. -/
def Occurs (t : Text) : Prop := '\n' ∈ t ∨ '\r' ∈ t

instance (t : Text) : Decidable (Occurs t) := inferInstanceAs (Decidable (_ ∨ _))

/-- A text ends in a carriage return, its first line ending, and is followed by a line feed. -/
def Joins (front rest : Text) : Prop :=
  front.getLast? = some '\r' ∧ ¬Occurs front.dropLast ∧ rest.head? = some '\n'

instance (front rest : Text) : Decidable (Joins front rest) :=
  inferInstanceAs (Decidable (_ ∧ _ ∧ _))

theorem occurs_cons_iff : Occurs (c :: rest) ↔ (c = '\n' ∨ c = '\r') ∨ Occurs rest := by
  rw [Occurs, Occurs, List.mem_cons, List.mem_cons, eq_comm (a := '\n'), eq_comm (a := '\r'),
    or_or_or_comm]

/-- A text with line endings has a first one. -/
theorem Occurs.exists_first (h : Occurs front) : ∃ before c after,
    front = before ++ c :: after ∧ ¬Occurs before ∧ (c = '\n' ∨ c = '\r') := by
  induction front with
  | nil => simp [Occurs] at h
  | cons c rest ih =>
    by_cases hc : c = '\n' ∨ c = '\r'
    · exact ⟨[], c, rest, rfl, by simp [Occurs], hc⟩
    · obtain ⟨before, d, after, rfl, hbefore, hd⟩ := ih ((occurs_cons_iff.mp h).resolve_left hc)
      exact ⟨c :: before, d, after, rfl, by simp [occurs_cons_iff, hc, hbefore], hd⟩

/-! ### Which part of a text decides -/

/-- A part without line endings has no say. -/
theorem ofText_append_of_not_occurs (h : ¬Occurs front) (rest : Text) :
    ofText (front ++ rest) = ofText rest := by
  induction front with
  | nil => rfl
  | cons c front ih =>
    rw [occurs_cons_iff, not_or, not_or] at h
    rw [List.cons_append, ← ih h.2]
    exact ofText.eq_5 _ _ h.1.1 (fun _ hcr _ => h.1.2 hcr) h.1.2

/-- What follows a carriage return decides which ending it is. -/
theorem ofText_cr (rest : Text) :
    ofText ('\r' :: rest) = if rest.head? = some '\n' then crlf else cr := by
  cases rest with
  | nil => rfl
  | cons c rest =>
    by_cases hc : c = '\n'
    · rw [hc]
      rfl
    · simp [ofText, hc]

/-- An ending with more of the same text behind it is not joined to what follows. -/
theorem not_joins_of_inner (before : Text) (hc : c = '\n' ∨ c = '\r') (d : Char)
    (after rest : Text) : ¬Joins (before ++ c :: d :: after) rest := by
  rintro ⟨-, hinner, -⟩
  rw [List.dropLast_append_cons, List.dropLast_cons_cons] at hinner
  refine hinner (hc.imp ?_ ?_) <;>
    exact fun h => List.mem_append_right _ (h ▸ List.mem_cons_self)

/-- **The first line ending decides**, and with it what follows a carriage return. -/
theorem ofText_append_eq_iff (h : Occurs front) :
    ofText (front ++ rest) = ofText front ↔ ¬Joins front rest := by
  obtain ⟨before, c, after, rfl, hbefore, hc⟩ := h.exists_first
  rw [List.append_assoc, ofText_append_of_not_occurs hbefore, ofText_append_of_not_occurs hbefore,
    List.cons_append]
  cases after with
  | nil =>
    rw [Joins, List.getLast?_concat, List.dropLast_concat]
    rcases hc with rfl | rfl
    · -- a line feed is whole
      simp [ofText]
    · rw [List.nil_append, ofText_cr, ofText_cr]
      by_cases hhead : rest.head? = some '\n' <;> simp [hhead, hbefore]
  | cons d after =>
    refine iff_of_true ?_ (not_joins_of_inner before hc d after rest)
    rcases hc with rfl | rfl
    · rfl
    · rw [ofText_cr, ofText_cr]
      rfl

end LineEnding

namespace Document

variable {doc : Document} {p : Position} {span : Span} {text : Text} {start stop offset : Nat}

/-- The recorded line ending is that of the text. -/
def RecordsEnding (doc : Document) : Prop := doc.lineEnding = .ofText doc.text

/-- The text that was given last as a whole, in a run that starts with a text. -/
def givenText (text : Text) : List Request → Text
  | [] => text
  | .setText other :: rest => givenText other rest
  | .replace _ _ :: rest | .insert _ _ :: rest | .subscribe :: rest | .unsubscribe _ :: rest =>
    givenText text rest

/-! ### What is recorded -/

/-- Only a whole new text is looked at. -/
theorem lineEnding_replace (doc : Document) (span : Span) (text : Text) :
    (doc.replace span text).2.lineEnding = doc.lineEnding := by
  rw [replace]
  split <;> rfl

/-- **What is recorded** after a run: the line ending of the text that was given last. -/
theorem lineEnding_handleAll (h : doc.lineEnding = .ofText text) (requests : List Request) :
    (doc.handleAll requests).lineEnding = .ofText (givenText text requests) := by
  induction requests generalizing doc text with
  | nil => exact h
  | cons request rest ih =>
    rw [handleAll, List.foldl_cons, ← handleAll]
    cases request with
    | setText other => exact ih rfl
    | replace span _ => exact ih ((doc.lineEnding_replace span _).trans h)
    | insert p _ => exact ih ((doc.lineEnding_replace (.point p) _).trans h)
    | subscribe => exact ih h
    | unsubscribe _ => exact ih h

/-! ### What the text says -/

/-- A slot does not part a carriage return from a line feed. -/
theorem not_joins_of_offset? (h : doc.offset? p = some offset) :
    ¬LineEnding.Joins (doc.text.take offset) (doc.text.drop offset) := by
  rintro ⟨hlast, -, hhead⟩
  have hle := offset?_le h
  rw [List.getLast?_take] at hlast
  split at hlast
  · cases hlast
  · rw [List.getElem?_eq_getElem (by omega), Option.some_or] at hlast
    refine not_partsBreak_of_offset? h ⟨by omega, ?_, ?_⟩
    · rw [List.getElem?_eq_getElem (by omega), hlast]
    · rw [← List.head?_drop, hhead]

/-- **Which edits leave the record right.** Behind a line ending those that do not move a line feed
up to it, and otherwise those that leave the same ending behind. -/
theorem recordsEnding_replace_iff (h : doc.RecordsEnding)
    (hstart : doc.offset? span.start = some start) (hstop : doc.offset? span.stop = some stop)
    (text : Text) :
    (doc.replace span text).2.RecordsEnding ↔
      (LineEnding.Occurs (doc.text.take start) →
        ¬LineEnding.Joins (doc.text.take start) (text ++ doc.text.drop stop)) ∧
      (¬LineEnding.Occurs (doc.text.take start) →
        LineEnding.ofText (text ++ doc.text.drop stop) = doc.lineEnding) := by
  have hafter : (doc.replace span text).2.RecordsEnding ↔
      doc.lineEnding = .ofText (doc.text.take start ++ (text ++ doc.text.drop stop)) := by
    rw [RecordsEnding, lineEnding_replace, replace_of_accepted hstart hstop, text_tell, splice,
      List.append_assoc]
  have hbefore : doc.lineEnding = .ofText (doc.text.take start ++ doc.text.drop start) := by
    rw [List.take_append_drop]
    exact h
  rw [hafter]
  by_cases hoccurs : LineEnding.Occurs (doc.text.take start)
  · rw [(LineEnding.ofText_append_eq_iff hoccurs).mpr (not_joins_of_offset? hstart)] at hbefore
    rw [hbefore, eq_comm, LineEnding.ofText_append_eq_iff hoccurs]
    simp [hoccurs]
  · rw [LineEnding.ofText_append_of_not_occurs hoccurs, eq_comm]
    simp [hoccurs]

/-- **When the recorded line ending is right.** In every run it is that of the text which was given
last as a whole, so it is right as long as the text of the moment begins with the same. A new text
sets it right, an edit that is refused leaves it as right or wrong as it was, and an edit that is
made keeps it right in the following cases only: some line ending stands in front of the edit, and
no line feed has come to follow the first of them, a carriage return right before the edit; or none
stands there, and what is behind it now begins with the ending that the text began with before. -/
theorem recorded_ending_right_iff (text : Text) (requests : List Request) :
    (((ofText text).handleAll requests).RecordsEnding ↔
      LineEnding.ofText ((ofText text).handleAll requests).text =
        .ofText (givenText text requests)) ∧
    ∀ doc : Document,
      (∀ text, (doc.setText text).RecordsEnding) ∧
      (∀ span text e, (doc.replace span text).1 = .error e →
        ((doc.replace span text).2.RecordsEnding ↔ doc.RecordsEnding)) ∧
      ∀ span text start stop, doc.RecordsEnding →
        doc.offset? span.start = some start → doc.offset? span.stop = some stop →
        ((doc.replace span text).2.RecordsEnding ↔
          (LineEnding.Occurs (doc.text.take start) →
            ¬LineEnding.Joins (doc.text.take start) (text ++ doc.text.drop stop)) ∧
          (¬LineEnding.Occurs (doc.text.take start) →
            LineEnding.ofText (text ++ doc.text.drop stop) = doc.lineEnding)) := by
  refine ⟨?_, fun doc => ⟨fun text => rfl, fun span text e herror => ?_,
    fun span text start stop h hstart hstop => recordsEnding_replace_iff h hstart hstop text⟩⟩
  · have hrecorded : ((ofText text).handleAll requests).lineEnding =
        .ofText (givenText text requests) :=
      lineEnding_handleAll rfl requests
    rw [RecordsEnding, hrecorded, eq_comm]
  · rw [replace_of_error herror]

/-- Where a character stands between a carriage return and a line feed, it can be replaced and not
deleted. -/
theorem recorded_ending_right_unless_joined :
    ((ofText "a\rb\nc".toList).replace (.ordered (.of 2 1) (.of 2 2)) ['x']).2.RecordsEnding ∧
      ¬((ofText "a\rb\nc".toList).replace (.ordered (.of 2 1) (.of 2 2)) []).2.RecordsEnding := by
  have hedit := ((recorded_ending_right_iff "a\rb\nc".toList []).2
    (ofText "a\rb\nc".toList)).2.2 (.ordered (.of 2 1) (.of 2 2))
  constructor
  · rw [hedit ['x'] 2 3 rfl (by decide +kernel) (by decide +kernel)]
    decide +kernel
  · rw [hedit [] 2 3 rfl (by decide +kernel) (by decide +kernel)]
    decide +kernel

/-- The first line break of a document is not noticed when it is inserted. -/
theorem recorded_ending_wrong_after_insert :
    ((ofText "ab".toList).handle (.insert (.of 1 2) "\r\n".toList)).Reachable ∧
      ((ofText "ab".toList).handle (.insert (.of 1 2) "\r\n".toList)).text = "a\r\nb".toList ∧
      ((ofText "ab".toList).handle (.insert (.of 1 2) "\r\n".toList)).lineEnding = .lf ∧
      LineEnding.ofText "a\r\nb".toList = .crlf :=
  ⟨(Reachable.ofText _).handle _, by decide +kernel, by decide +kernel, by decide +kernel⟩

end Document

end FrameScript
