import FrameScript.Document.Basic

/-!
# Runs of a document

A document lives through edits, some of them refused, while subscribers come and go. What holds of
documents is said of all that can be reached from a text by such requests.

No two subscribers have the same number, since a number is given only once. So an edit is told to
each of them once.

## Main definitions

* `Document.Request`, `Document.handle` — what is asked of a document, and what it does about it
* `Document.Reachable` — the documents to be reached
* `Document.heard` — all edits that a subscriber has been told of
* `Document.Numbered` — numbers are given only once

## Main results

* `Document.Reachable.numbered` — they are, in every run
* `Document.Numbered.heard_tell` — who is told of an edit
-/

namespace FrameScript

namespace Document

/-- What is asked of a document. -/
inductive Request
  | setText (text : Text)
  | replace (span : Span) (text : Text)
  | insert (p : Position) (text : Text)
  | subscribe
  | unsubscribe (subscriber : Nat)

/-- The document after a request, whether it is refused or not. -/
def handle (doc : Document) : Request → Document
  | .setText text => doc.setText text
  | .replace span text => (doc.replace span text).2
  | .insert p text => (doc.insert p text).2
  | .subscribe => doc.subscribe.2
  | .unsubscribe subscriber => (doc.unsubscribe subscriber).2

/-- The documents to be reached from a text by requests. -/
inductive Reachable : Document → Prop
  | ofText (text : Text) : Reachable (.ofText text)
  | handle {doc : Document} (h : Reachable doc) (request : Request) : Reachable (doc.handle request)

/-- The edits that a subscriber has been told of, oldest first. -/
def heard (doc : Document) (subscriber : Nat) : List Edit :=
  (doc.deliveries.filter (·.subscriber = subscriber)).map Delivery.edit

/-- No two subscribers have the same number, and the next one gets a new number. -/
structure Numbered (doc : Document) : Prop where
  nodup : doc.subscribers.Nodup
  lt_next : ∀ k ∈ doc.subscribers, k < doc.nextSubscriber

variable {doc : Document}

/-! ### What edits keep -/

/-- Edits, refused or not, leave the subscribers as they are. -/
theorem subscribers_replace (doc : Document) (span : Span) (text : Text) :
    (doc.replace span text).2.subscribers = doc.subscribers ∧
      (doc.replace span text).2.nextSubscriber = doc.nextSubscriber := by
  rw [replace]
  split <;> exact ⟨rfl, rfl⟩

namespace Numbered

theorem of_eq {doc' : Document} (h : doc.Numbered) (hsubscribers : doc'.subscribers = doc.subscribers)
    (hnext : doc'.nextSubscriber = doc.nextSubscriber) : doc'.Numbered := by
  constructor
  · rw [hsubscribers]
    exact h.nodup
  · rw [hsubscribers, hnext]
    exact h.lt_next

theorem subscribe (h : doc.Numbered) : doc.subscribe.2.Numbered where
  nodup := by
    refine List.nodup_append.mpr ⟨h.nodup, List.pairwise_singleton _ _, fun k hk l hl => ?_⟩
    rw [List.mem_singleton.mp hl]
    exact Nat.ne_of_lt (h.lt_next k hk)
  lt_next k hk := by
    rcases List.mem_append.mp hk with hold | hnew
    · exact Nat.lt_succ_of_lt (h.lt_next k hold)
    · rw [List.mem_singleton.mp hnew]
      exact Nat.lt_succ_self _

theorem unsubscribe (h : doc.Numbered) (subscriber : Nat) :
    (doc.unsubscribe subscriber).2.Numbered where
  nodup := List.Pairwise.filter _ h.nodup
  lt_next k hk := h.lt_next k (List.mem_filter.mp hk).1

theorem handle (h : doc.Numbered) (request : Request) : (doc.handle request).Numbered := by
  cases request with
  | setText text => exact h.of_eq rfl rfl
  | replace span text =>
    obtain ⟨hsubscribers, hnext⟩ := doc.subscribers_replace span text
    exact h.of_eq hsubscribers hnext
  | insert p text =>
    obtain ⟨hsubscribers, hnext⟩ := doc.subscribers_replace (.point p) text
    exact h.of_eq hsubscribers hnext
  | subscribe => exact h.subscribe
  | unsubscribe subscriber => exact h.unsubscribe subscriber

/-- **Who is told of an edit**: every subscriber, once. -/
theorem heard_tell (h : doc.Numbered) (edit : Edit) (subscriber : Nat) :
    (doc.tell edit).heard subscriber =
      doc.heard subscriber ++ if subscriber ∈ doc.subscribers then [edit] else [] := by
  have hnew : ((doc.subscribers.map (⟨·, edit⟩)).filter
      fun delivery : Delivery => delivery.subscriber = subscriber) =
        List.replicate (doc.subscribers.count subscriber) ⟨subscriber, edit⟩ := by
    rw [List.filter_map, ← List.map_replicate (f := fun k : Nat => (⟨k, edit⟩ : Delivery)),
      ← List.filter_eq]
    rfl
  rw [heard, tell, List.filter_append, List.map_append, hnew, List.map_replicate, h.nodup.count]
  split <;> rfl

end Numbered

/-- **Numbers are given only once**, in every run. -/
theorem Reachable.numbered (h : doc.Reachable) : doc.Numbered := by
  induction h with
  | ofText text => exact ⟨List.nodup_nil, fun k hk => absurd hk List.not_mem_nil⟩
  | handle _ request ih => exact ih.handle request

end Document

end FrameScript
