import FrameScript.Proofs.Document.Edit

/-!
# What subscribers hear

A subscriber hears of every edit that is made while it is registered, in the order in which they
are made, and of no other. So it can keep account of the length of the text without asking for it:
every edit that it hears of takes away no more than there is. Of one edit the subscribers hear in
the order in which they came, which is that of their numbers.

## Main definitions

* `Document.handleAll` — a run of requests
* `Document.edit?`, `Document.edits` — the edits that requests make
* `Document.numbers` — the numbers that a run of requests gives to subscribers
* `Document.Tells` — an edit that everybody is told of, or no edit and nothing to tell
* `Edit.lengthAfter?` — the length of a text after an edit

## Main results

* `Document.tells_handle` — what a request tells
* `Document.Numbered.heard_handleAll` — what a subscriber hears while it is registered
* `Document.Numbered.heard_handleAll_of_not_mem` — and afterwards
* `Document.subscribers_hear_edits_while_registered` — all of this, in every run
-/

namespace FrameScript

/-- The length of a text after an edit, if what the edit removes is part of the text. -/
def Edit.lengthAfter? (edit : Edit) (length : Nat) : Option Nat :=
  if edit.offset + edit.removed ≤ length then some (length - edit.removed + edit.inserted) else none

namespace Document

variable {doc : Document} {k : Nat}

/-- The document after several requests, whether they are refused or not. -/
def handleAll (doc : Document) (requests : List Request) : Document := requests.foldl handle doc

/-- The edit that a request makes, if it asks for one and is not refused. -/
def edit? (doc : Document) : Request → Option Edit
  | .setText text => some ⟨0, doc.text.length, text.length⟩
  | .replace span text => (doc.replace span text).1.toOption
  | .insert p text => (doc.insert p text).1.toOption
  | .subscribe | .unsubscribe _ => none

/-- The edits that several requests make, in order. -/
def edits (doc : Document) : List Request → List Edit
  | [] => []
  | request :: rest => (doc.edit? request).toList ++ (doc.handle request).edits rest

/-- The number that a request gives, if it asks for one. -/
def number? (doc : Document) : Request → Option Nat
  | .subscribe => some doc.subscribe.1
  | .setText _ | .replace _ _ | .insert _ _ | .unsubscribe _ => none

/-- The numbers that several requests give to subscribers, in order. -/
def numbers (doc : Document) : List Request → List Nat
  | [] => []
  | request :: rest => (doc.number? request).toList ++ (doc.handle request).numbers rest

/-! ### What a request tells -/

/-- The document after a request, which made an edit that everybody has been told of, or made none,
so that there was nothing to tell. -/
inductive Tells (doc : Document) : Option Edit → Document → Prop
  | made {edit : Edit} {text : Text} (lineEnding : LineEnding)
    (hlength : edit.lengthAfter? doc.text.length = some text.length) :
    Tells doc (some edit) (tell { doc with text, lineEnding } edit)
  | none {after : Document} (htext : after.text = doc.text)
    (hdeliveries : after.deliveries = doc.deliveries) : Tells doc none after

theorem tells_replace (doc : Document) (span : Span) (text : Text) :
    doc.Tells (doc.replace span text).1.toOption (doc.replace span text).2 := by
  cases hstart : doc.offset? span.start with
  | none =>
    rw [replace_of_start_refused hstart]
    exact .none rfl rfl
  | some start =>
    cases hstop : doc.offset? span.stop with
    | none =>
      rw [replace_of_stop_refused hstart hstop]
      exact .none rfl rfl
    | some stop =>
      have hle : start ≤ stop := offset?_mono span.start_le_stop hstart hstop
      have hend : stop ≤ doc.text.length := offset?_le hstop
      have hlength := length_splice hle hend text
      rw [replace_of_accepted hstart hstop]
      refine .made doc.lineEnding ?_
      rw [Edit.lengthAfter?, if_pos (by dsimp only; omega), Option.some.injEq]
      dsimp only
      omega

/-- **What a request tells**: the edit that it makes. -/
theorem tells_handle (doc : Document) (request : Request) :
    doc.Tells (doc.edit? request) (doc.handle request) := by
  match request with
  | .setText text =>
    refine .made (.ofText text) ?_
    simp [Edit.lengthAfter?]
  | .replace span text => exact doc.tells_replace span text
  | .insert p text => exact doc.tells_replace (.point p) text
  | .subscribe => exact .none rfl rfl
  | .unsubscribe k => exact .none rfl rfl

namespace Tells

variable {made : Option Edit} {after : Document}

theorem deliveries_eq (h : doc.Tells made after) : after.deliveries = doc.deliveries ++
    made.toList.flatMap fun edit => doc.subscribers.map (⟨·, edit⟩) := by
  cases h with
  | made => simp [tell]
  | none _ hdeliveries => simp [hdeliveries]

theorem lengthAfter?_eq {edit : Edit} (h : doc.Tells (some edit) after) :
    edit.lengthAfter? doc.text.length = some after.text.length := by
  cases h with
  | made _ hlength => exact hlength

/-- The length of the text can be told from its length before. -/
theorem length_eq (h : doc.Tells made after) :
    made.toList.foldlM (fun length edit => edit.lengthAfter? length) doc.text.length =
      some after.text.length := by
  cases h with
  | made _ hlength => simp [hlength]
  | none htext => simp [htext]

/-- Subscribers hear of the edit, and nobody else does. -/
theorem heard_eq (h : doc.Tells made after) (hnumbered : doc.Numbered) (k : Nat) :
    after.heard k = doc.heard k ++ if k ∈ doc.subscribers then made.toList else [] := by
  cases h with
  | made lineEnding hlength =>
    exact Numbered.heard_tell (hnumbered.of_eq rfl rfl) _ k
  | none _ hdeliveries =>
    rw [heard, hdeliveries, Option.toList_none, ite_self, List.append_nil, heard]

end Tells

/-! ### Who is told -/

theorem mem_subscribers_unsubscribe_iff {j : Nat} :
    j ∈ (doc.unsubscribe k).2.subscribers ↔ j ∈ doc.subscribers ∧ j ≠ k := by
  rw [unsubscribe, List.mem_filter, decide_eq_true_iff]

/-- A subscriber can leave if it is there. -/
theorem unsubscribe_eq_decide (doc : Document) (k : Nat) :
    (doc.unsubscribe k).1 = decide (k ∈ doc.subscribers) := List.elem_eq_mem k doc.subscribers

/-- Who is told of edits after a request: whoever was told before it and does not leave, and whoever
comes. -/
theorem mem_subscribers_handle_iff {request : Request} : k ∈ (doc.handle request).subscribers ↔
    request ≠ .unsubscribe k ∧
      (k ∈ doc.subscribers ∨ request = .subscribe ∧ k = doc.nextSubscriber) := by
  match request with
  | .setText text => simp [handle, setText, tell]
  | .replace span text => simp [handle, subscribers_replace]
  | .insert p text => simp [handle, insert, subscribers_replace]
  | .subscribe => simp [handle, subscribe]
  | .unsubscribe j =>
    have hleave : Request.unsubscribe j ≠ .unsubscribe k ↔ k ≠ j := by
      rw [ne_eq, Request.unsubscribe.injEq, eq_comm]
    rw [handle, mem_subscribers_unsubscribe_iff, hleave]
    simp [and_comm]

theorem nextSubscriber_handle (doc : Document) (request : Request) :
    (doc.handle request).nextSubscriber =
      doc.nextSubscriber + (doc.number? request).toList.length := by
  match request with
  | .setText text => rfl
  | .replace span text => exact (doc.subscribers_replace span text).2
  | .insert p text => exact (doc.subscribers_replace (.point p) text).2
  | .subscribe => rfl
  | .unsubscribe j => rfl

/-! ### Runs -/

theorem Reachable.handleAll (h : doc.Reachable) (requests : List Request) :
    (doc.handleAll requests).Reachable := by
  induction requests generalizing doc with
  | nil => exact h
  | cons request rest ih => exact ih (h.handle request)

/-- **What a subscriber hears** while it is registered: the edits that are made. -/
theorem Numbered.heard_handleAll (h : doc.Numbered) (hmem : k ∈ doc.subscribers)
    {requests : List Request} (hstay : .unsubscribe k ∉ requests) :
    (doc.handleAll requests).heard k = doc.heard k ++ doc.edits requests ∧
      k ∈ (doc.handleAll requests).subscribers := by
  induction requests generalizing doc with
  | nil => exact ⟨(List.append_nil _).symm, hmem⟩
  | cons request rest ih =>
    rw [List.mem_cons, not_or] at hstay
    have hmem' : k ∈ (doc.handle request).subscribers :=
      mem_subscribers_handle_iff.mpr ⟨Ne.symm hstay.1, .inl hmem⟩
    obtain ⟨hheard, hlast⟩ := ih (h.handle request) hmem' hstay.2
    refine ⟨?_, hlast⟩
    rw [handleAll, List.foldl_cons, ← handleAll, hheard, (doc.tells_handle request).heard_eq h,
      if_pos hmem, List.append_assoc, edits]

/-- A subscriber that has left hears of no more edits, and cannot leave again. -/
theorem Numbered.heard_handleAll_of_not_mem (h : doc.Numbered) (hmem : k ∉ doc.subscribers)
    (hgiven : k < doc.nextSubscriber) (requests : List Request) :
    (doc.handleAll requests).heard k = doc.heard k ∧ k ∉ (doc.handleAll requests).subscribers := by
  induction requests generalizing doc with
  | nil => exact ⟨rfl, hmem⟩
  | cons request rest ih =>
    have hmem' : k ∉ (doc.handle request).subscribers := by
      rw [mem_subscribers_handle_iff]
      rintro ⟨-, hold | ⟨-, hnew⟩⟩
      · exact hmem hold
      · omega
    have hgiven' : k < (doc.handle request).nextSubscriber := by
      rw [nextSubscriber_handle]
      omega
    obtain ⟨hheard, hlast⟩ := ih (h.handle request) hmem' hgiven'
    refine ⟨?_, hlast⟩
    rw [handleAll, List.foldl_cons, ← handleAll, hheard, (doc.tells_handle request).heard_eq h,
      if_neg hmem, List.append_nil]

theorem Reachable.heard_after_leaving (h : doc.Reachable) (hmem : k ∈ doc.subscribers)
    (requests : List Request) :
    ((doc.unsubscribe k).2.handleAll requests).heard k = doc.heard k ∧
      k ∉ ((doc.unsubscribe k).2.handleAll requests).subscribers := by
  have hgone : k ∉ (doc.unsubscribe k).2.subscribers := fun hstill =>
    (mem_subscribers_unsubscribe_iff.mp hstill).2 rfl
  exact (h.numbered.unsubscribe k).heard_handleAll_of_not_mem hgone (h.numbered.lt_next k hmem)
    requests

/-- The edits of a run lead from the length of the text before it to that after it. -/
theorem foldlM_edits (doc : Document) (requests : List Request) :
    (doc.edits requests).foldlM (fun length edit => edit.lengthAfter? length) doc.text.length =
      some (doc.handleAll requests).text.length := by
  induction requests generalizing doc with
  | nil => rfl
  | cons request rest ih =>
    rw [edits, List.foldlM_append, (doc.tells_handle request).length_eq]
    exact ih (doc.handle request)

theorem eq_nextSubscriber_of_number? {request : Request} (h : doc.number? request = some k) :
    k = doc.nextSubscriber := by
  cases request <;> cases h
  rfl

/-- **Numbers ascend** in the order in which they are given. -/
theorem pairwise_numbers (doc : Document) (requests : List Request) :
    (doc.numbers requests).Pairwise (· < ·) ∧
      ∀ k ∈ doc.numbers requests, doc.nextSubscriber ≤ k := by
  induction requests generalizing doc with
  | nil => exact ⟨.nil, fun k hk => absurd hk List.not_mem_nil⟩
  | cons request rest ih =>
    obtain ⟨hpairwise, hle⟩ := ih (doc.handle request)
    have hnext := doc.nextSubscriber_handle request
    rw [numbers]
    cases hnumber : doc.number? request with
    | none =>
      rw [hnumber, Option.toList_none, List.length_nil, Nat.add_zero] at hnext
      rw [hnext] at hle
      exact ⟨hpairwise, hle⟩
    | some n =>
      rw [hnumber, Option.toList_some, List.length_singleton] at hnext
      obtain rfl := eq_nextSubscriber_of_number? hnumber
      rw [hnext] at hle
      refine ⟨List.pairwise_cons.mpr ⟨hle, hpairwise⟩, List.forall_mem_cons.mpr ⟨Nat.le_refl _, ?_⟩⟩
      exact fun k hk => Nat.le_of_succ_le (hle k hk)

/-- A number that has not been given has heard nothing. -/
theorem Reachable.heard_eq_nil (h : doc.Reachable) (hk : doc.nextSubscriber ≤ k) :
    doc.heard k = [] := by
  induction h with
  | ofText text => rfl
  | handle h request ih =>
    rw [nextSubscriber_handle] at hk
    rw [(tells_handle _ request).heard_eq h.numbered, ih (by omega), List.nil_append, if_neg]
    intro hmem
    have := h.numbered.lt_next k hmem
    omega

/-- Subscribers stand in the order of their numbers. -/
theorem Reachable.pairwise_subscribers (h : doc.Reachable) : doc.subscribers.Pairwise (· < ·) := by
  induction h with
  | ofText text => exact .nil
  | @handle doc h request ih =>
    match request with
    | .setText text => exact ih
    | .replace span text => exact (doc.subscribers_replace span text).1 ▸ ih
    | .insert p text => exact (doc.subscribers_replace (.point p) text).1 ▸ ih
    | .subscribe =>
      refine List.pairwise_append.mpr ⟨ih, List.pairwise_singleton _ _, fun k hk l hl => ?_⟩
      rw [List.mem_singleton.mp hl]
      exact h.numbered.lt_next k hk
    | .unsubscribe k => exact ih.filter _

/-- **Subscribers hear of the edits** that are made while they are registered. Numbers are given in
ascending order, and that is the order in which subscribers are told of an edit. Of an edit that is
refused nobody is told, and nobody else leaves with a subscriber. One that comes in any run hears of
exactly the edits that are made until it leaves, and can tell from them how long the text is. It can
leave once. -/
theorem subscribers_hear_edits_while_registered :
    (∀ text requests, ((ofText text).numbers requests).Pairwise (· < ·)) ∧
    ∀ doc : Document, doc.Reachable →
      doc.subscribers.Pairwise (· < ·) ∧
      (∀ request, (doc.handle request).deliveries = doc.deliveries ++
        (doc.edit? request).toList.flatMap fun edit => doc.subscribers.map (⟨·, edit⟩)) ∧
      (∀ span text e, (doc.replace span text).1 = .error e → (doc.replace span text).2 = doc) ∧
      (∀ request edit, doc.edit? request = some edit →
        edit.lengthAfter? doc.text.length = some (doc.handle request).text.length) ∧
      (∀ j k, j ≠ k → (j ∈ (doc.unsubscribe k).2.subscribers ↔ j ∈ doc.subscribers)) ∧
      ∀ k joined, doc.subscribe = (k, joined) →
        doc.heard k = [] ∧ (doc.unsubscribe k).1 = false ∧
        ∀ during after, .unsubscribe k ∉ during →
          (joined.handleAll during).heard k = joined.edits during ∧
          ((joined.handleAll during).heard k).foldlM (fun length edit => edit.lengthAfter? length)
            joined.text.length = some (joined.handleAll during).text.length ∧
          ((joined.handleAll during).unsubscribe k).1 = true ∧
          (((joined.handleAll during).unsubscribe k).2.handleAll after).heard k =
            joined.edits during ∧
          ((((joined.handleAll during).unsubscribe k).2.handleAll after).unsubscribe k).1 =
            false := by
  refine ⟨fun text requests => (pairwise_numbers _ requests).1, fun doc h => ?_⟩
  refine ⟨h.pairwise_subscribers, fun request => (doc.tells_handle request).deliveries_eq,
    fun span text e => replace_of_error, fun request edit hedit => ?_, fun j k hne => ?_, ?_⟩
  · exact (hedit ▸ doc.tells_handle request).lengthAfter?_eq
  · rw [mem_subscribers_unsubscribe_iff, and_iff_left hne]
  · intro k joined hjoin
    obtain ⟨rfl, rfl⟩ : doc.nextSubscriber = k ∧ doc.subscribe.2 = joined :=
      ⟨congrArg Prod.fst hjoin, congrArg Prod.snd hjoin⟩
    have hnew : doc.nextSubscriber ∉ doc.subscribers := fun hmem =>
      Nat.lt_irrefl _ (h.numbered.lt_next _ hmem)
    have hnothing : doc.heard doc.nextSubscriber = [] := h.heard_eq_nil (Nat.le_refl _)
    have hjoined : doc.subscribe.2.Reachable := h.handle .subscribe
    have hmem : doc.nextSubscriber ∈ doc.subscribe.2.subscribers :=
      List.mem_append_right _ (List.mem_singleton_self _)
    refine ⟨hnothing, ?_, fun during after hstay => ?_⟩
    · rw [unsubscribe_eq_decide, decide_eq_false hnew]
    · obtain ⟨hheard, hstill⟩ := hjoined.numbered.heard_handleAll hmem hstay
      obtain ⟨hlater, hgone⟩ := (hjoined.handleAll during).heard_after_leaving hstill after
      have hall : (doc.subscribe.2.handleAll during).heard doc.nextSubscriber =
          doc.subscribe.2.edits during := hheard.trans (congrArg (· ++ _) hnothing)
      refine ⟨hall, ?_, ?_, hlater.trans hall, ?_⟩
      · rw [hall]
        exact foldlM_edits _ during
      · rw [unsubscribe_eq_decide, decide_eq_true hstill]
      · rw [unsubscribe_eq_decide, decide_eq_false hgone]

/-- One that comes second, sees the first leave and then leaves itself. -/
theorem heard_between_coming_and_leaving :
    ∃ doc joined : Document, doc.Reachable ∧ doc.subscribers = [0] ∧ doc.subscribe = (1, joined) ∧
      (joined.handleAll [.insert (.of 1 1) "x\r\n".toList, .insert (.of 9 9) ['y'],
        .unsubscribe 0, .setText ['q']]).heard 1 = [⟨0, 0, 3⟩, ⟨0, 5, 1⟩] ∧
      (((joined.handleAll [.insert (.of 1 1) "x\r\n".toList, .insert (.of 9 9) ['y'],
        .unsubscribe 0, .setText ['q']]).unsubscribe 1).2.handleAll [.setText []]).heard 1 =
          [⟨0, 0, 3⟩, ⟨0, 5, 1⟩] := by
  have hreachable : ((ofText "ab".toList).handle .subscribe).Reachable :=
    (Reachable.ofText _).handle .subscribe
  obtain ⟨-, -, -, -, -, hwindow⟩ := subscribers_hear_edits_while_registered.2 _ hreachable
  obtain ⟨-, -, hwindow⟩ := hwindow 1 _ rfl
  obtain ⟨hheard, -, -, hlater, -⟩ := hwindow [.insert (.of 1 1) "x\r\n".toList,
    .insert (.of 9 9) ['y'], .unsubscribe 0, .setText ['q']] [.setText []] (by simp)
  exact ⟨_, _, hreachable, rfl, rfl, hheard.trans (by decide +kernel),
    hlater.trans (by decide +kernel)⟩

end Document

end FrameScript
