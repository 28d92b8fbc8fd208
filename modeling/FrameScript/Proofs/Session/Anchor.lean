import FrameScript.Proofs.Session.Requests

/-!
# The two ends of a selection

The selection and the caret are stored side by side and changed by different parts of each request,
some of which fail halfway. Still the active end of a selection is the caret, always. The other
end is where the selection began: it is forgotten when the caret comes back to it, and taken from
the caret when the selection begins anew, which is then the same slot.

## Main definitions

* `Selection.EndsAt` — the active end is a position, and the anchor of a text is another slot
* `Selection.following` — the selection from where it began to the caret
* `Session.Anchored` — the active end of the selection is the caret
* `Session.Begun` — the selection began in a given slot
* `Session.Request.Follows` — the requests that let the selection follow the caret

## Main results

* `Selection.extend_eq` — extending keeps the anchor, or else begins at the caret
* `Session.Anchored.handle` — every request keeps the active end at the caret
* `Session.Begun.handle`, `Session.Begun.handleAll` — the selection follows the caret, for one
  request and for a run
* `Session.selection_follows_caret` — both
-/

namespace FrameScript

namespace Selection

variable {anchor before after p : Position} {asBox : Bool}

/-! ### The active end -/

/-- The active end is the position; and if text is selected, some of it is. -/
def EndsAt (p : Position) : Selection → Prop
  | none => True
  | simple anchor active => anchor.sameSlot active = false ∧ active = p
  | rectangle corners => corners.active = p

theorem endsAt_between (anchor p : Position) : (between anchor p).EndsAt p := by
  rw [between]
  split
  · trivial
  · rename_i hne
    exact ⟨Bool.eq_false_iff.mpr hne, rfl⟩

/-! ### The anchor -/

/-- Where a selection began; if there is none, one would begin at the caret. -/
def anchorFrom (caret : Position) : Selection → Position
  | none => caret
  | simple anchor _ => anchor
  | rectangle corners => corners.anchor

/-- The selection that began at an anchor, when the caret is at a position. -/
def following (anchor : Position) (asBox : Bool) (p : Position) : Selection :=
  if asBox then rectangle ⟨anchor, p⟩ else between anchor p

theorem endsAt_following (anchor : Position) (asBox : Bool) (p : Position) :
    (following anchor asBox p).EndsAt p := by
  cases asBox with
  | true => exact rfl
  | false => exact endsAt_between anchor p

theorem isRectangle_following (anchor : Position) (asBox : Bool) (p : Position) :
    (following anchor asBox p).isRectangle = asBox := by
  cases asBox with
  | true => rfl
  | false =>
    show (between anchor p).isRectangle = false
    rw [between]
    split <;> rfl

/-- The anchor is found again from the caret, also if the caret has come back to it. -/
theorem anchorFrom_following (anchor : Position) (asBox : Bool) (p : Position) :
    ((following anchor asBox p).anchorFrom p).sameSlot anchor = true := by
  cases asBox with
  | true => exact anchor.sameSlot_self
  | false =>
    show ((between anchor p).anchorFrom p).sameSlot anchor = true
    rw [between]
    split
    · rename_i hmet
      rw [Position.sameSlot_iff] at hmet
      exact Position.sameSlot_iff.mpr ⟨hmet.1.symm, hmet.2.symm⟩
    · exact anchor.sameSlot_self

/-- **A selection is extended** from its anchor, or else from the caret. -/
theorem extend_eq (selection : Selection) (before after : Position) :
    selection.extend before after =
      following (selection.anchorFrom before) selection.isRectangle after := by
  cases selection with
  | none => rfl
  | simple anchor active => rfl
  | rectangle corners => rfl

end Selection

namespace Session

variable {session : Session} {p : Position} {asBox : Bool}

/-- Turning a selection into a rectangle keeps its anchor. -/
theorem boxed_eq (session : Session) :
    session.boxed = if session.selection.isRectangle then session.selection else
      .following (session.selection.anchorFrom session.caret.position) true
        session.caret.position := by
  rw [Session.boxed]
  cases session.selection with
  | none => rfl
  | simple anchor active => rfl
  | rectangle corners => rfl

/-! ### The active end -/

/-- The active end of the selection is the caret. -/
def Anchored (session : Session) : Prop := session.selection.EndsAt session.caret.position

theorem Anchored.boxed (h : session.Anchored) :
    Anchored { session with selection := session.boxed } := by
  rw [Anchored, boxed_eq]
  dsimp only
  split
  · exact h
  · exact Selection.endsAt_following _ _ _

/-- A movement that fails keeps the selection as it is at that moment. -/
theorem Anchored.moveCaret (h : session.Anchored) (m : Movement)
    {select : Position → Position → Selection}
    (hselect : ∀ before after, (select before after).EndsAt after) :
    (session.moveCaret m select).2.Anchored := by
  rcases session.moveCaret_cases m select with ⟨caret, -, heq⟩ | ⟨e, -, heq⟩
  · rw [heq]
    exact hselect _ _
  · rw [heq]
    exact h

theorem Anchored.extend (h : session.Anchored) (m : Movement) :
    (session.extend m).2.Anchored := by
  refine h.moveCaret m ?_
  intro before after
  rw [Selection.extend_eq]
  exact Selection.endsAt_following _ _ _

theorem Anchored.extendBox (h : session.Anchored) (m : Movement) :
    (session.extendBox m).2.Anchored := by
  rw [Session.extendBox]
  split
  · exact h.boxed.extend m
  · exact h.extend m

/-- **Every request keeps the active end at the caret**, whether it fails or not. -/
theorem Anchored.handle (h : session.Anchored) (request : Request) :
    (session.handle request).2.Anchored := by
  have hnone : Anchored { session with selection := .none } := trivial
  match request with
  | .execute (.caret m .drop) =>
    have hdrop : ∀ before after : Position, Selection.none.EndsAt after := fun _ _ => trivial
    exact hnone.moveCaret m hdrop
  | .execute (.caret m .extend) => exact h.extend m
  | .execute (.caret m .box) => exact h.extendBox m
  | .execute .selectAll =>
    show session.selectAll.2.Anchored
    rw [selectAll]
    dsimp only
    split
    · exact h
    · exact Selection.endsAt_between _ _
  | .setText text => trivial
  | .placeCaret p => trivial
  | .setOptions options => exact h

theorem anchored_of_reachable (h : Reachable (fun _ _ => True) session) : session.Anchored := by
  induction h with
  | start document options => trivial
  | handle h request _ ih => exact ih.handle request

/-! ### The anchor -/

/-- The selection began in the slot of a position, and is a rectangle or not. -/
def Begun (p : Position) (asBox : Bool) (session : Session) : Prop :=
  ∃ anchor : Position, anchor.sameSlot p = true ∧
    session.selection = .following anchor asBox session.caret.position

/-- The request lets the selection follow the caret, and keeps it allowed or forbidden to select
rectangles. -/
def Request.Follows (rectangles : Bool) : Request → Prop
  | .execute (.caret _ .extend) | .execute (.caret _ .box) => True
  | .setOptions options => options.rectangles = rectangles
  | _ => False

/-- The request asks for a rectangle. -/
def Request.isBox : Request → Bool
  | .execute (.caret _ .box) => true
  | _ => false

namespace Begun

/-- Where the selection began can be told from it and the caret. -/
theorem anchorFrom (h : session.Begun p asBox) :
    (session.selection.anchorFrom session.caret.position).sameSlot p = true ∧
      session.selection.isRectangle = asBox := by
  obtain ⟨anchor, hanchor, hselection⟩ := h
  rw [hselection]
  exact ⟨Position.sameSlot_trans (Selection.anchorFrom_following _ _ _) hanchor,
    Selection.isRectangle_following _ _ _⟩

theorem boxed (h : session.Begun p asBox) :
    Begun p true { session with selection := session.boxed } := by
  have hanchor := h.anchorFrom
  rw [Begun, boxed_eq]
  dsimp only
  split
  · rename_i hrectangle
    cases hrectangle.symm.trans hanchor.2
    exact h
  · exact ⟨_, hanchor.1, rfl⟩

/-- A movement that fails leaves the caret in the slot where the selection ends. -/
theorem extend (h : session.Begun p asBox) (m : Movement) :
    Begun p asBox (session.extend m).2 ∧ (session.extend m).2.options = session.options := by
  have hanchor := h.anchorFrom
  rw [Session.extend]
  rcases session.moveCaret_cases m session.selection.extend with ⟨caret, -, heq⟩ | ⟨e, -, heq⟩
  · rw [heq]
    refine ⟨⟨_, hanchor.1, ?_⟩, rfl⟩
    dsimp only
    rw [Selection.extend_eq, hanchor.2]
  · rw [heq]
    exact ⟨h, rfl⟩

theorem extendBox (h : session.Begun p asBox) (m : Movement) :
    Begun p (asBox || session.options.rectangles) (session.extendBox m).2 ∧
      (session.extendBox m).2.options = session.options := by
  rw [Session.extendBox]
  cases hallowed : session.options.rectangles with
  | true =>
    rw [if_pos rfl, Bool.or_true]
    exact h.boxed.extend m
  | false =>
    rw [if_neg Bool.false_ne_true, Bool.or_false]
    exact h.extend m

/-- **The selection follows the caret**: its anchor stays, and it becomes a rectangle once that is
asked for and allowed. -/
theorem handle (h : session.Begun p asBox) {request : Request}
    (hfollows : request.Follows session.options.rectangles) :
    Begun p (asBox || (session.options.rectangles && request.isBox)) (session.handle request).2 ∧
      (session.handle request).2.options.rectangles = session.options.rectangles := by
  match request with
  | .execute (.caret m .drop) => exact hfollows.elim
  | .execute (.caret m .extend) =>
    have hextend := h.extend m
    rw [show (Request.execute (.caret m .extend)).isBox = false from rfl, Bool.and_false,
      Bool.or_false]
    exact ⟨hextend.1, congrArg Options.rectangles hextend.2⟩
  | .execute (.caret m .box) =>
    rw [show (Request.execute (.caret m .box)).isBox = true from rfl, Bool.and_true]
    have hbox := h.extendBox m
    exact ⟨hbox.1, congrArg Options.rectangles hbox.2⟩
  | .execute .selectAll => exact hfollows.elim
  | .setText text => exact hfollows.elim
  | .placeCaret p => exact hfollows.elim
  | .setOptions options =>
    rw [show (Request.setOptions options).isBox = false from rfl, Bool.and_false, Bool.or_false]
    exact ⟨h, hfollows⟩

/-- A run of requests that let the selection follow the caret. -/
theorem handleAll (h : session.Begun p asBox) {requests : List Request}
    (hfollows : ∀ request ∈ requests, request.Follows session.options.rectangles) :
    Begun p (asBox || (session.options.rectangles && requests.any Request.isBox))
      (session.handleAll requests) := by
  induction requests generalizing session asBox with
  | nil =>
    rw [List.any_nil, Bool.and_false, Bool.or_false]
    exact h
  | cons request rest ih =>
    obtain ⟨hbegun, hoptions⟩ := h.handle (hfollows request List.mem_cons_self)
    have hrest := ih hbegun fun other hother =>
      hoptions ▸ hfollows other (List.mem_cons_of_mem request hother)
    rw [hoptions, Bool.or_assoc, ← Bool.and_or_distrib_left, ← List.any_cons] at hrest
    exact hrest

end Begun

theorem any_isBox_iff {requests : List Request} :
    requests.any Request.isBox = true ↔ ∃ m, .execute (.caret m .box) ∈ requests := by
  rw [List.any_eq_true]
  constructor
  · rintro ⟨request, hmem, hbox⟩
    match request with
    | .execute (.caret m .box) => exact ⟨m, hmem⟩
  · rintro ⟨m, hmem⟩
    exact ⟨_, hmem, rfl⟩

/-- **The selection stays anchored and follows the caret.** In every session that can be reached,
the active end of the selection is the caret, and if text is selected, some of it is. A run of
requests that extend the selection, begun with nothing selected, leaves what lies between the caret
of the beginning and that of the end, as a rectangle if one was asked for and rectangles can be
selected. -/
theorem selection_follows_caret :
    (∀ session, Reachable (fun _ _ => True) session →
      (∀ anchor active, session.selection = .simple anchor active →
        anchor.sameSlot active = false ∧ active = session.caret.position) ∧
      ∀ corners, session.selection = .rectangle corners →
        corners.active = session.caret.position) ∧
    ∀ (session : Session) (requests : List Request), session.selection = .none →
      (∀ request ∈ requests, request.Follows session.options.rectangles) →
      ∃ anchor : Position, anchor.sameSlot session.caret.position = true ∧
        (session.options.rectangles = false ∨ (∀ m, .execute (.caret m .box) ∉ requests) →
          (session.handleAll requests).selection =
            .between anchor (session.handleAll requests).caret.position) ∧
        (session.options.rectangles = true → (∃ m, .execute (.caret m .box) ∈ requests) →
          (session.handleAll requests).selection =
            .rectangle ⟨anchor, (session.handleAll requests).caret.position⟩) := by
  constructor
  · intro session h
    have hanchored := anchored_of_reachable h
    rw [Anchored] at hanchored
    constructor
    · intro anchor active hselection
      rwa [hselection] at hanchored
    · intro corners hselection
      rwa [hselection] at hanchored
  · intro session requests hnone hfollows
    have hbegun : session.Begun session.caret.position false := by
      refine ⟨session.caret.position, Position.sameSlot_self _, ?_⟩
      rw [hnone]
      exact (if_pos (Position.sameSlot_self _)).symm
    obtain ⟨anchor, hanchor, hselection⟩ := hbegun.handleAll hfollows
    rw [Bool.false_or] at hselection
    refine ⟨anchor, hanchor, ?_, ?_⟩
    · intro htext
      have hbox : (session.options.rectangles && requests.any Request.isBox) = false := by
        rw [Bool.and_eq_false_iff, Bool.eq_false_iff (b := requests.any _), ne_eq, any_isBox_iff,
          not_exists]
        exact htext
      rw [hselection, hbox]
      rfl
    · intro hallowed hasked
      rw [hselection, hallowed, any_isBox_iff.mpr hasked]
      rfl

/-- A selection that has collapsed grows again from where it began, here to the right of it. -/
theorem anchor_of_collapsed :
    ∃ anchor : Position, anchor.sameSlot .start = true ∧
      ((start (.ofText "word".toList) .usual).handleAll
        [.execute (.caret .charRight .extend), .execute (.caret .charLeft .extend),
          .execute (.caret .lineEnd .extend)]).selection = .between anchor (.atEnd (.of 1 5)) := by
  obtain ⟨anchor, hanchor, hselection, -⟩ := selection_follows_caret.2
    (start (.ofText "word".toList) .usual) [.execute (.caret .charRight .extend),
      .execute (.caret .charLeft .extend), .execute (.caret .lineEnd .extend)] rfl (by
        intro request hrequest
        simp only [List.mem_cons, List.not_mem_nil, or_false] at hrequest
        rcases hrequest with rfl | rfl | rfl <;> trivial)
  refine ⟨anchor, hanchor, ?_⟩
  rw [hselection (Or.inr fun m => by simp)]
  exact congrArg _ (by decide +kernel)

end Session

end FrameScript
