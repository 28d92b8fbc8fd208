import FrameScript.Session

/-!
# Runs of a session

A session lives through a sequence of requests: commands, new texts, clicks and changes of its
options, in any order. What holds of sessions is said of all that can be reached from the start of
a document by such requests, of all kinds or of those that a host is allowed to make.

## Main definitions

* `Session.Request` — what is asked of a session
* `Session.handle`, `Session.handleAll` — what a session does about a request, and about several
* `Session.Reachable` — the sessions to be reached by allowed requests
* `Session.selectionBefore` — the selection that a movement begins with

## Main results

* `Session.moveCaret_cases` — all that moving the caret does to a session
* `Session.moveWith_cases` — the same for movements of all effects
* `Session.moveWith_eq_ok_iff` — where they lead is up to the navigation
* `Session.moveWith_of_ok`, `Session.moveWith_of_error` — what movements leave that succeed or fail
-/

namespace FrameScript

namespace Session

/-- What is asked of a session. -/
inductive Request
  | execute (command : Command)
  /-- Another text. -/
  | setText (text : Text)
  /-- The caret is placed at a position, as by a click. -/
  | placeCaret (p : Position)
  | setOptions (options : Options)

/-- What a session does about a request. Only commands can fail. -/
def handle (session : Session) : Request → Except NavigationError Unit × Session
  | .execute command => session.execute command
  | .setText text => (.ok (), session.setText text)
  | .placeCaret p => (.ok (), session.placeCaret p)
  | .setOptions options => (.ok (), { session with options })

/-- The session after several requests, whether they fail or not. -/
def handleAll (session : Session) (requests : List Request) : Session :=
  requests.foldl (fun session request => (session.handle request).2) session

/-- The sessions to be reached from the start of a document by requests that are allowed, whether
they fail or not. -/
inductive Reachable (allowed : Session → Request → Prop) : Session → Prop
  | start (document : Document) (options : Options) : Reachable allowed (.start document options)
  | handle {session : Session} (h : Reachable allowed session) (request : Request)
    (hallowed : allowed session request) : Reachable allowed (session.handle request).2

/-- Moving the caret either leads to where the navigation leads it, with the selection that goes
with that, or fails and does nothing. -/
theorem moveCaret_cases (session : Session) (m : Movement)
    (select : Position → Position → Selection) :
    (∃ caret, session.navigation.move session.caret m = (.ok caret.position, caret) ∧
      session.moveCaret m select = (.ok caret.position,
        { session with
          caret
          selection := select session.caret.position caret.position
          caretMoved := true })) ∨
    ∃ e, (session.navigation.move session.caret m).1 = .error e ∧
      session.moveCaret m select = (.error e, session) := by
  cases hmove : session.navigation.move session.caret m with
  | mk answer caret =>
    cases answer with
    | ok p =>
      have hp : caret.position = p := by
        have h := Navigation.position_of_move (congrArg Prod.fst hmove)
        rwa [hmove] at h
      refine Or.inl ⟨caret, by rw [hp], ?_⟩
      simp only [moveCaret, hmove, hp]
    | error e =>
      refine Or.inr ⟨e, rfl, ?_⟩
      simp only [moveCaret, hmove]

/-- What becomes of the selection before the caret moves: it is dropped, or turned into a rectangle
if there can be rectangles. -/
def selectionBefore (session : Session) : SelectionEffect → Selection
  | .drop => .none
  | .extend => session.selection
  | .box => if session.options.rectangles then session.boxed else session.selection

/-- A movement that extends a rectangle is one that extends a selection which has become a
rectangle, where there can be rectangles. -/
theorem extendBox_eq (session : Session) (m : Movement) :
    session.extendBox m =
      { session with selection := session.selectionBefore .box }.extend m := by
  rw [extendBox, selectionBefore]
  split
  · rfl
  · rfl

/-- Movements of all effects move the caret, once something has become of the selection. -/
theorem exists_moveWith_eq (session : Session) (effect : SelectionEffect) (m : Movement) :
    ∃ select, session.moveWith effect m =
      { session with selection := session.selectionBefore effect }.moveCaret m select := by
  cases effect with
  | drop => exact ⟨fun _ _ => .none, rfl⟩
  | extend => exact ⟨session.selection.extend, rfl⟩
  | box => exact ⟨(session.selectionBefore .box).extend, session.extendBox_eq m⟩

/-- **Movements of all effects** either lead to where the navigation leads the caret, with some
selection, or fail and do nothing once something has become of the selection. -/
theorem moveWith_cases (session : Session) (effect : SelectionEffect) (m : Movement) :
    (∃ caret selection, session.navigation.move session.caret m = (.ok caret.position, caret) ∧
      session.moveWith effect m =
        (.ok caret.position, { session with caret, selection, caretMoved := true })) ∨
    ∃ e, (session.navigation.move session.caret m).1 = .error e ∧
      session.moveWith effect m =
        (.error e, { session with selection := session.selectionBefore effect }) := by
  obtain ⟨select, heq⟩ := session.exists_moveWith_eq effect m
  rw [heq]
  rcases moveCaret_cases { session with selection := session.selectionBefore effect } m select with
    ⟨caret, hmove, hmoved⟩ | ⟨e, hmove, hfailed⟩
  · exact Or.inl ⟨caret, _, hmove, hmoved⟩
  · exact Or.inr ⟨e, hmove, hfailed⟩

section Answers

variable {session : Session} {effect : SelectionEffect} {m : Movement} {p : Position}

/-- The navigation alone decides whether a movement succeeds, and where it leads. -/
theorem moveWith_eq_ok_iff :
    (session.moveWith effect m).1 = .ok p ↔
      (session.navigation.move session.caret m).1 = .ok p := by
  rcases session.moveWith_cases effect m with ⟨caret, selection, hmove, hmoved⟩ |
    ⟨e, hmove, hfailed⟩
  · rw [hmove, hmoved]
  · rw [hmove, hfailed]

/-- **A movement that succeeds** leaves the caret where it leads, and touches neither document nor
options. -/
theorem moveWith_of_ok (h : (session.moveWith effect m).1 = .ok p) :
    (session.moveWith effect m).2.caret.position = p ∧
      (session.moveWith effect m).2.document = session.document ∧
      (session.moveWith effect m).2.options = session.options := by
  rcases session.moveWith_cases effect m with ⟨caret, selection, -, hmoved⟩ | ⟨e, -, hfailed⟩
  · rw [hmoved, Except.ok.injEq] at h
    rw [hmoved]
    exact ⟨h, rfl, rfl⟩
  · cases (congrArg Prod.fst hfailed).symm.trans h

/-- **A failed movement** leaves what became of the selection before it, whatever made it fail. -/
theorem moveWith_of_error {e : NavigationError} (effect : SelectionEffect)
    (h : (session.moveWith effect m).1 = .error e) :
    (session.moveWith effect m).2 =
      { session with selection := session.selectionBefore effect } := by
  rcases session.moveWith_cases effect m with ⟨caret, selection, -, hmoved⟩ | ⟨e, -, hfailed⟩
  · cases (congrArg Prod.fst hmoved).symm.trans h
  · rw [hfailed]

end Answers

end Session

end FrameScript
