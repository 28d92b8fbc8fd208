import FrameScript.Proofs.Document.Location
import FrameScript.Proofs.Navigation.Landing
import FrameScript.Proofs.Session.Requests

/-!
# The caret on the slots of action lines

On an action line the caret rests on slots, in whatever way it came there: movements land on them,
and wherever the host places the caret, or a new text moves it, it is snapped. The exception is the
command that selects everything. It takes the caret to the end of the text and does not ask what
kind of line ends there. The end of a line that is written as it would be printed is a slot. Where
blanks follow the last input, or padding is missing, it need not be one.

## Main definitions

* `Session.RestsOnSlot` — the caret is on a slot if its line is an action line
* `Session.Request.Snaps` — the requests that keep the caret to slots

## Main results

* `Session.restsOnSlot_of_moveWith`, `Session.restsOnSlot_placeCaret` — movements and placing
* `Session.RestsOnSlot.handleAll` — a run of such requests
* `Session.selectAll_eq` — what selecting everything does
* `Session.caret_on_slot_unless_all_selected` — all requests that concern the caret
-/

namespace FrameScript

/-- The end of a printed line is a slot. -/
theorem ActionLine.Expressible.isSlot_end {action : ActionLine} (h : action.Expressible) :
    action.IsSlot (action.textLength + 1) := by
  have hlength := h.textLength_eq
  have hdigits := h.firstDigit_add_digits
  have hlast := lastEdge_eq action
  have hboundary : action.boundary = action.width.columns + 1 := rfl
  rw [h.isSlot_iff]
  by_cases hfeather : Input.feather ∈ action.inputs
  · exact Or.inr (Or.inr ⟨hfeather, h.lastEdge_le⟩)
  · rw [payload_eq_nil hfeather, List.length_nil] at hlength
    by_cases hnone : action.tokenCount = 0
    · exact Or.inl (by omega)
    · exact Or.inr (Or.inl (by omega))

namespace Session

variable {session : Session} {p : Position} {m : Movement}

/-- The caret is on a slot, if it is on an action line. -/
def RestsOnSlot (session : Session) : Prop :=
  ∀ action, session.actionLine? = some action →
    action.snap session.caret.position.column = session.caret.position.column

/-! ### Movements -/

/-- Where the navigation lets the caret stand, it is on a slot. -/
theorem restsOnSlot_of_settled (h : session.navigation.Settled session.caret.position) :
    session.RestsOnSlot := by
  obtain ⟨raw, hraw, haction, -⟩ := h.within
  intro action hline
  rw [actionLine?, Navigation.actionLine?, hraw, Option.bind_some] at hline
  exact (haction action hline).2.1

/-- **Movements** lead to slots, whatever they do to the selection. -/
theorem restsOnSlot_of_moveWith {effect : SelectionEffect}
    (h : (session.moveWith effect m).1 = .ok p) : (session.moveWith effect m).2.RestsOnSlot := by
  obtain ⟨hposition, hdocument, hoptions⟩ := moveWith_of_ok h
  refine restsOnSlot_of_settled ?_
  rw [navigation, hposition, hdocument, hoptions]
  exact Navigation.settled_of_move _ session.caret m p (moveWith_eq_ok_iff.mp h)

/-! ### Placing the caret -/

/-- **Wherever the caret is placed**, it is snapped. -/
theorem restsOnSlot_placeCaret (session : Session) (p : Position) :
    (session.placeCaret p).RestsOnSlot := by
  intro action hline
  have haction : session.navigation.actionLine? p.line = some action := hline
  have hcolumn : (session.placeCaret p).caret.position.column = action.snap p.column := by
    show session.navigation.slotFor p.line p.column = _
    rw [Navigation.slotFor, haction]
  rw [hcolumn]
  exact action.snap_snap p.column

/-! ### Selecting everything -/

/-- **Selecting everything** leads to the end of the text. -/
theorem selectAll_eq (session : Session) :
    ∃ raw, session.document.reader.line? session.document.lineCount = some raw ∧
      session.selectAll =
        (.ok (.between .start (.of session.document.lineCount (raw.length + 1))),
          { session with
            caret := .placedAt (.of session.document.lineCount (raw.length + 1))
            selection := .between .start (.of session.document.lineCount (raw.length + 1)) }) := by
  obtain ⟨last, hlast, hend⟩ := session.document.position?_length
  refine ⟨last.content, by rw [Document.line?_reader, hlast]; rfl, ?_⟩
  simp only [selectAll, hend]

/-- After that the caret is on a slot if the last line ends in one. -/
theorem restsOnSlot_selectAll_iff {raw : Text}
    (hraw : session.document.reader.line? session.document.lineCount = some raw) :
    session.selectAll.2.RestsOnSlot ↔
      ∀ action, ActionLine.parse? session.options.frameColumns raw = some action →
        action.IsSlot (raw.length + 1) := by
  obtain ⟨last, hlast, heq⟩ := session.selectAll_eq
  cases hraw.symm.trans hlast
  have hline : session.selectAll.2.actionLine? =
      ActionLine.parse? session.options.frameColumns raw := by
    rw [heq]
    show (session.document.reader.line? session.document.lineCount).bind _ = _
    rw [hraw]
    rfl
  have hcolumn : session.selectAll.2.caret.position.column = raw.length + 1 := by
    rw [heq]
    rfl
  rw [RestsOnSlot, hline, hcolumn]
  exact forall_congr' fun action => forall_congr' fun _ => ActionLine.snap_eq_self_iff

/-! ### Runs -/

/-- The request puts the caret on a slot, if it does anything to it. -/
def Request.Snaps : Request → Prop
  | .execute (.caret _ _) | .setText _ | .placeCaret _ => True
  | .execute .selectAll | .setOptions _ => False

/-- A movement that fails leaves the caret where it is. -/
theorem RestsOnSlot.handle (h : session.RestsOnSlot) {request : Request} (hsnaps : request.Snaps) :
    (session.handle request).2.RestsOnSlot := by
  match request with
  | .execute (.caret m effect) =>
    show (session.moveWith effect m).2.RestsOnSlot
    cases hanswer : (session.moveWith effect m).1 with
    | ok p => exact restsOnSlot_of_moveWith hanswer
    | error e =>
      rw [moveWith_of_error effect hanswer]
      exact h
  | .setText text => exact restsOnSlot_placeCaret _ _
  | .placeCaret p => exact session.restsOnSlot_placeCaret p

/-- **A run** of requests that snap the caret keeps it on slots. -/
theorem RestsOnSlot.handleAll (h : session.RestsOnSlot) {requests : List Request}
    (hsnaps : ∀ request ∈ requests, request.Snaps) :
    (session.handleAll requests).RestsOnSlot := by
  induction requests generalizing session with
  | nil => exact h
  | cons request rest ih =>
    exact ih (h.handle (hsnaps request List.mem_cons_self)) fun other hother =>
      hsnaps other (List.mem_cons_of_mem request hother)

/-- **The caret is on a slot** after every movement that succeeds, wherever it is placed and
whatever text is given, and stays on slots through a run of such requests, those that fail
included. Selecting everything succeeds always and takes it to the end of the text. It is on a slot
then exactly if the last line ends in one, or is no action line; so it is if that line is written as
it would be printed. -/
theorem caret_on_slot_unless_all_selected (session : Session) :
    (∀ m effect, (session.execute (.caret m effect)).1 = .ok () →
      (session.execute (.caret m effect)).2.RestsOnSlot) ∧
    (∀ p, (session.placeCaret p).RestsOnSlot) ∧
    (∀ text, (session.setText text).RestsOnSlot) ∧
    (session.RestsOnSlot → ∀ requests : List Request, (∀ request ∈ requests, request.Snaps) →
      (session.handleAll requests).RestsOnSlot) ∧
    ∃ raw, session.document.reader.line? session.document.lineCount = some raw ∧
      (session.execute .selectAll).1 = .ok () ∧
      (session.execute .selectAll).2.caret =
        .placedAt (.of session.document.lineCount (raw.length + 1)) ∧
      ((session.execute .selectAll).2.RestsOnSlot ↔
        ∀ action, ActionLine.parse? session.options.frameColumns raw = some action →
          action.IsSlot (raw.length + 1)) ∧
      ((∀ action, ActionLine.parse? session.options.frameColumns raw = some action →
          action.render = raw) →
        (session.execute .selectAll).2.RestsOnSlot) := by
  refine ⟨fun m effect hok => ?_, session.restsOnSlot_placeCaret,
    fun text => restsOnSlot_placeCaret _ _, fun h requests hsnaps => h.handleAll hsnaps, ?_⟩
  · rw [execute, Prod.map_fst] at hok
    obtain ⟨p, hp, -⟩ := Outcome.map_eq_ok_iff.mp hok
    exact restsOnSlot_of_moveWith hp
  · obtain ⟨raw, hraw, heq⟩ := session.selectAll_eq
    have hslot : (session.execute .selectAll).2.RestsOnSlot ↔
        ∀ action, ActionLine.parse? session.options.frameColumns raw = some action →
          action.IsSlot (raw.length + 1) :=
      restsOnSlot_selectAll_iff hraw
    refine ⟨raw, hraw, ?_, ?_, hslot, fun hprinted => hslot.mpr fun action hparse => ?_⟩
    · rw [execute, Prod.map_fst, heq]
      rfl
    · rw [execute, Prod.map_snd, heq]
      rfl
    · have hend := (ActionLine.expressible_of_parse? hparse).isSlot_end
      rwa [ActionLine.textLength, hprinted action hparse] at hend

/-- From behind the last input of a padded line, over the angle of a line without padding. -/
theorem caret_on_slot_in_angle :
    (((start (.ofText "  15,R,J\n1,F,4.5".toList) .usual).placeCaret (.of 1 9)).execute
        (.caret .lineDown .box)).1 = .ok () ∧
      (((start (.ofText "  15,R,J\n1,F,4.5".toList) .usual).placeCaret (.of 1 9)).execute
        (.caret .lineDown .box)).2.caret.position = .of 2 9 ∧
      (((start (.ofText "  15,R,J\n1,F,4.5".toList) .usual).placeCaret (.of 1 9)).execute
        (.caret .lineDown .box)).2.RestsOnSlot := by
  have hok : (((start (.ofText "  15,R,J\n1,F,4.5".toList) .usual).placeCaret (.of 1 9)).execute
      (.caret .lineDown .box)).1 = .ok () :=
    Outcome.toOption_eq_some_iff.mp (by decide +kernel)
  exact ⟨hok, by decide +kernel, (caret_on_slot_unless_all_selected _).1 _ _ hok⟩

/-- With blanks behind the last input, selecting everything leaves the caret behind the blanks. -/
theorem caret_off_slot_behind_blanks :
    ((start (.ofText "  15,R,J  ".toList) .usual).execute .selectAll).1 = .ok () ∧
      ((start (.ofText "  15,R,J  ".toList) .usual).execute .selectAll).2.caret =
        .placedAt (.of 1 11) ∧
      ¬((start (.ofText "  15,R,J  ".toList) .usual).execute .selectAll).2.RestsOnSlot := by
  refine ⟨Outcome.toOption_eq_some_iff.mp (by decide +kernel), by decide +kernel, fun hrests => ?_⟩
  obtain ⟨action, haction, hsnap⟩ := Option.map_eq_some_iff.mp
    (show ((start (.ofText "  15,R,J  ".toList) .usual).execute .selectAll).2.actionLine?.map
      (·.snap 11) = some 9 by decide +kernel)
  cases hsnap.symm.trans (hrests action haction)

end Session

end FrameScript
