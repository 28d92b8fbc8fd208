import FrameScript.Proofs.Session.Total

/-!
# What a failed command leaves behind

A command fails if it is a movement, and the caret was placed by hand on a line that the document
does not have. Nothing has happened then but what was done to the selection before the caret was
asked to move. A movement that drops the selection has dropped it, and one that extends it has done
nothing to it yet. But one that extends a rectangle turns the selection into a rectangle first, and
that stays.

## Main results

* `Session.moveWith_of_not_wellPlaced` — a movement of a caret on no line fails
* `Session.boxed_eq_selection_iff` — the selections that are rectangles already
* `Session.failed_command_leaves` — all commands
-/

namespace FrameScript

namespace Session

variable {session : Session} {effect : SelectionEffect} {m : Movement} {e : NavigationError}

/-! ### What is left -/

/-- A selection that is a rectangle stays as it is, and no other does. -/
theorem boxed_eq_selection_iff :
    session.boxed = session.selection ↔ session.selection.isRectangle = true := by
  rw [boxed]
  cases session.selection with
  | none => exact ⟨nofun, nofun⟩
  | simple anchor active => exact ⟨nofun, nofun⟩
  | rectangle corners => exact ⟨fun _ => rfl, fun _ => rfl⟩

/-- Where there can be no rectangles, or the selection is one, nothing becomes of it. -/
theorem selectionBefore_box_eq_iff :
    session.selectionBefore .box = session.selection ↔
      session.options.rectangles = false ∨ session.selection.isRectangle = true := by
  rw [selectionBefore]
  cases session.options.rectangles with
  | true => rw [if_pos rfl, boxed_eq_selection_iff, or_iff_right Bool.noConfusion]
  | false => exact ⟨fun _ => Or.inl rfl, fun _ => rfl⟩

/-! ### When it happens -/

/-- The caret is on no line exactly if the document has none there. -/
theorem line?_eq_none_iff :
    session.navigation.reader.line? session.caret.position.line = none ↔ ¬session.WellPlaced := by
  rw [WellPlaced, show session.document.lineCount = session.document.reader.lineCount from rfl,
    ← session.document.isFaithful_reader, ← Option.isSome_iff_exists, Bool.not_eq_true,
    Option.isSome_eq_false_iff, Option.isNone_iff_eq_none]
  rfl

/-- **A movement of a caret on no line** fails, and says so. -/
theorem moveWith_of_not_wellPlaced (h : ¬session.WellPlaced) (effect : SelectionEffect)
    (m : Movement) :
    (session.moveWith effect m).1 = .error (.noLine session.caret.position.line) := by
  have hmove := Navigation.move_of_no_line (line?_eq_none_iff.mpr h) m
  rcases session.moveWith_cases effect m with ⟨caret, selection, hok, -⟩ | ⟨e, herror, hfailed⟩
  · cases hok.symm.trans hmove
  · rw [hmove] at herror
    cases herror
    rw [hfailed]

/-! ### All commands -/

/-- **A failed command** leaves the caret, the document, the options and the note that the caret was
moved as they were. The selection has been dropped, if that was asked for; it is as it was, if it
was to be extended; and if a rectangle was to be extended, it has become a rectangle, so that it is
as it was only if it was one already, or if there can be none. Movements fail if the caret is on no
line of the document. If it is on one they do not, a page down that cannot be counted apart; and
selecting everything never fails. -/
theorem failed_command_leaves (session : Session) :
    (∀ m e, (session.move m).1 = .error e →
      (session.move m).2 = { session with selection := .none }) ∧
    (∀ m e, (session.extend m).1 = .error e → (session.extend m).2 = session) ∧
    (∀ m e, (session.extendBox m).1 = .error e →
      (session.extendBox m).2 =
          { session with
            selection :=
              if session.options.rectangles then session.boxed else session.selection } ∧
        ((session.extendBox m).2 = session ↔
          session.options.rectangles = false ∨ session.selection.isRectangle = true)) ∧
    (∃ selection, session.selectAll.1 = .ok selection) ∧
    (¬(1 ≤ session.caret.position.line ∧
        session.caret.position.line ≤ session.document.lineCount) →
      ∀ effect m,
        (session.moveWith effect m).1 = .error (.noLine session.caret.position.line)) ∧
    (1 ≤ session.caret.position.line ∧
        session.caret.position.line ≤ session.document.lineCount →
      ∀ effect m,
        (m = .pageDown →
          PlainText.PageFits session.caret.position.line session.options.pageLines) →
        ∃ p, (session.moveWith effect m).1 = .ok p) := by
  refine ⟨fun m e h => moveWith_of_error .drop h, fun m e h => moveWith_of_error .extend h,
    fun m e h => ?_, ?_, moveWith_of_not_wellPlaced, fun hplaced effect m _ => ?_⟩
  · have hleft : (session.extendBox m).2 =
        { session with selection := session.selectionBefore .box } :=
      moveWith_of_error .box h
    refine ⟨hleft, ?_⟩
    rw [hleft, ← selectionBefore_box_eq_iff]
    constructor
    · exact fun hsame => congrArg Session.selection hsame
    · intro hsame
      rw [hsame]
  · obtain ⟨selection, hselection, -⟩ := WellPlaced.selectAll session
    exact ⟨selection, hselection⟩
  · obtain ⟨p, hp, -⟩ := WellPlaced.moveWith hplaced effect m
    exact ⟨p, hp⟩

/-- Behind the last line: once a rectangle has been left there, extending it fails again and leaves
it, and moving fails and drops it. -/
theorem failed_command_leaves_rectangle :
    ∃ session, session = (((start (.ofText "  15,R".toList) .usual).placeCaret (.of 5 1)).extendBox
        .charLeft).2 ∧
      session.selection = .rectangle ⟨.of 5 1, .of 5 1⟩ ∧
      (session.extendBox .charLeft).1 = .error (.noLine 5) ∧
      (session.extendBox .charLeft).2 = session ∧
      (session.move .charLeft).1 = .error (.noLine 5) ∧
      (session.move .charLeft).2 = { session with selection := .none } := by
  refine ⟨_, rfl, by decide +kernel, by decide +kernel, ?_, by decide +kernel, ?_⟩
  · exact (((failed_command_leaves _).2.2.1 _ (.noLine 5) (by decide +kernel)).2).mpr
      (Or.inr (by decide +kernel))
  · exact (failed_command_leaves _).1 _ (.noLine 5) (by decide +kernel)

/-- Behind the last line, with nothing selected, a movement that fails to extend a rectangle leaves
one. -/
theorem failed_box_leaves_rectangle :
    ((start (.ofText "  15,R".toList) .usual).placeCaret (.of 5 1)).selection = .none ∧
      (((start (.ofText "  15,R".toList) .usual).placeCaret (.of 5 1)).extendBox .charLeft).1 =
        .error (.noLine 5) ∧
      (((start (.ofText "  15,R".toList) .usual).placeCaret (.of 5 1)).extendBox
        .charLeft).2.selection = .rectangle ⟨.of 5 1, .of 5 1⟩ := by
  refine ⟨rfl, ?_, ?_⟩ <;> decide +kernel

end Session

end FrameScript
