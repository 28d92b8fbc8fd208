import FrameScript.Proofs.Navigation.Total
import FrameScript.Proofs.Session.Requests

/-!
# Sessions in which nothing fails

Movements fail only where lines are missing, and a session never loses the lines under its caret:
each movement ends on a line of the document, a new text takes the caret along, and options have no
say in it. So as long as the caret is never placed outside the document by hand, no command fails,
whatever else is asked of the session.

## Main definitions

* `Session.WellPlaced` — the caret is on a line of the document
* `Session.Request.PlacesInside` — the requests that do not place the caret elsewhere

## Main results

* `Session.WellPlaced.handle` — one request
* `Session.no_command_fails` — all sessions that can be reached
-/

namespace FrameScript

namespace Session

variable {session : Session}

/-- The caret is on a line of the document. -/
def WellPlaced (session : Session) : Prop :=
  1 ≤ session.caret.position.line ∧ session.caret.position.line ≤ session.document.lineCount

/-- The request does not place the caret outside the document. -/
def Request.PlacesInside (session : Session) : Request → Prop
  | .placeCaret p => 1 ≤ p.line ∧ p.line ≤ session.document.lineCount
  | _ => True

theorem wellPlaced_start (document : Document) (options : Options) :
    (start document options).WellPlaced :=
  ⟨Nat.le_refl 1, document.one_le_lineCount⟩

namespace WellPlaced

/-- What is selected has no part in where the caret goes. -/
theorem moveWith (h : session.WellPlaced) (effect : SelectionEffect) (m : Movement) :
    ∃ p, (session.moveWith effect m).1 = .ok p ∧ (session.moveWith effect m).2.WellPlaced := by
  have hmoves : ∃ p, (session.navigation.move session.caret m).1 = .ok p ∧
      1 ≤ p.line ∧ p.line ≤ session.document.lineCount :=
    Navigation.exists_move_ok rfl rfl h m
  obtain ⟨p, hp, hline⟩ := hmoves
  have hok : (session.moveWith effect m).1 = .ok p := moveWith_eq_ok_iff.mpr hp
  obtain ⟨hposition, hdocument, -⟩ := moveWith_of_ok hok
  refine ⟨p, hok, ?_⟩
  rw [WellPlaced, hposition, hdocument]
  exact hline

theorem selectAll (session : Session) :
    ∃ selection, session.selectAll.1 = .ok selection ∧ session.selectAll.2.WellPlaced := by
  obtain ⟨stop, hstop, hline⟩ := session.document.exists_position?_length
  rw [Session.selectAll]
  dsimp only
  rw [hstop]
  exact ⟨_, rfl, hline⟩

theorem execute (h : session.WellPlaced) (command : Command) :
    (session.execute command).1 = .ok () ∧ (session.execute command).2.WellPlaced := by
  cases command with
  | caret m effect =>
    obtain ⟨p, hp, hplaced⟩ := h.moveWith effect m
    rw [Session.execute, Prod.map_fst, hp]
    exact ⟨rfl, hplaced⟩
  | selectAll =>
    obtain ⟨selection, hselection, hplaced⟩ := selectAll session
    rw [Session.execute, Prod.map_fst, hselection]
    exact ⟨rfl, hplaced⟩

/-- A new text takes the caret along. -/
theorem setText (session : Session) (text : Text) : (session.setText text).WellPlaced := by
  have hcount := (session.document.setText text).one_le_lineCount
  have hline : (session.setText text).caret.position.line =
      max 1 (min session.caret.position.line
        (max (session.document.setText text).lineCount 1)) := rfl
  rw [WellPlaced, hline, show (session.setText text).document.lineCount =
    (session.document.setText text).lineCount from rfl]
  omega

/-- **No request fails** of a session whose caret is on a line of the document, and unless it
places the caret elsewhere, the caret is on one afterwards. -/
theorem handle (h : session.WellPlaced) {request : Request}
    (hinside : request.PlacesInside session) :
    (session.handle request).1 = .ok () ∧ (session.handle request).2.WellPlaced := by
  cases request with
  | execute command => exact h.execute command
  | setText text => exact ⟨rfl, setText session text⟩
  | placeCaret p => exact ⟨rfl, hinside⟩
  | setOptions options => exact ⟨rfl, h⟩

end WellPlaced

theorem wellPlaced_of_reachable
    (h : Reachable (fun session request => request.PlacesInside session) session) :
    session.WellPlaced := by
  induction h with
  | start document options => exact wellPlaced_start document options
  | handle h request hinside ih => exact (ih.handle hinside).2

/-- **No command fails** in a session that was begun at the start of a document, whatever was asked
of it since, if only the caret was never placed outside the document; and the caret is on one of
the lines. -/
theorem no_command_fails
    (h : Reachable (fun session request => request.PlacesInside session) session) :
    (1 ≤ session.caret.position.line ∧
      session.caret.position.line ≤ session.document.lineCount) ∧
    ∀ request : Request, request.PlacesInside session →
      (session.handle request).1 = .ok () ∧
      1 ≤ (session.handle request).2.caret.position.line ∧
      (session.handle request).2.caret.position.line ≤
        (session.handle request).2.document.lineCount := by
  have hplaced := wellPlaced_of_reachable h
  exact ⟨hplaced, fun request hinside => hplaced.handle hinside⟩

/-- Below the end of a text that has become empty, a page down still succeeds. -/
theorem pageDown_ok_after_emptying :
    ((((start (.ofText "one\ntwo\nthree".toList) .usual).handle (.placeCaret (.of 3 9))).2.handle
      (.setText [])).2.execute (.caret .pageDown .box)).1 = .ok () := by
  have hplace : (Request.placeCaret (.of 3 9)).PlacesInside
      (start (.ofText "one\ntwo\nthree".toList) .usual) := by
    show 1 ≤ 3 ∧ 3 ≤ (Document.ofText "one\ntwo\nthree".toList).lineCount
    decide +kernel
  have hreachable := Reachable.handle (.handle (.start _ _) _ hplace) (.setText []) trivial
  exact ((no_command_fails hreachable).2 (.execute (.caret .pageDown .box)) trivial).1

end Session

end FrameScript
