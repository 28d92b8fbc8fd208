import FrameScript.Proofs.Navigation.WrapLeft
import FrameScript.Proofs.Session.Requests

/-!
# Giving a session its own text again

A new text takes the caret along: its line is moved into the text, its column into the line, and on
an action line to a slot. If the new text is the old one, the caret should stay where it is, at
least if a movement has put it there.

On lines that are no action lines it does. On action lines it depends on where the line ends. To a
movement it ends where its text or its printed text does, whichever is longer; to a new text it ends
with its text. So the caret comes back to its slot only if no slot lies between the end of the text
and it, and slots beyond are lost on lines that end short: whoever goes to the end of such a line
and gives the session its own text is taken back.

## Main definitions

* `Session.reload` — giving a session its own text again

## Main results

* `Navigation.column_le_of_not_endsShort` — the lines on which no slot is lost
* `Session.reload_eq` — all that happens then
* `Session.reload_keeps_caret_iff` — when the caret stays where a movement has put it
* `Session.reload_at_line_end` — at the end of a line that ends short it does not
-/

namespace FrameScript

/-- What a document shows is told by its text. -/
theorem Document.reader_setText_text (doc : Document) :
    (doc.setText doc.text).reader = doc.reader := rfl

namespace Navigation

variable {nav : Navigation} {action : ActionLine} {raw : Text} {p : Position}
  {line column limit : Nat}

/-! ### Columns that are not let beyond a limit -/

/-- A column that is not let beyond a limit comes back to where it was, on an action line if it is a
slot and no other lies between, and else if the limit leaves it alone. -/
theorem slotFor_min_eq_iff : nav.slotFor line (min column limit) = column ↔
    (nav.actionLine? line = none → column ≤ limit) ∧
    ∀ action, nav.actionLine? line = some action → action.IsSlot column ∧
      ∀ slot, action.IsSlot slot → limit ≤ slot → column ≤ slot := by
  rw [slotFor]
  cases nav.actionLine? line with
  | none => simp
  | some action => simp [ActionLine.snap_min_eq_self_iff]

/-- **Slots are within the text** or there are none between its end and them, unless the line ends
short. -/
theorem column_le_of_not_endsShort (h : action.Expressible) (hshort : ¬EndsShort action raw)
    (hcolumn : column ∈ slots action raw) {slot : Nat} (hslot : action.IsSlot slot)
    (hle : raw.length < slot) : column ≤ slot := by
  have hlast : column ≤ lastSlot action raw := (isGreatest_lastSlot h raw).2 hcolumn
  have hend := mt (landingSlot_endColumn_lt_iff h raw).mp hshort
  have hbefore : landingSlot action raw raw.endColumn ≤ slot := by
    refine ActionLine.snap_le_of_isSlot hslot ?_
    rw [show raw.endColumn = raw.length + 1 from rfl]
    omega
  omega

/-- **From a settled position** that is beyond the end of the text the way back leads to no later
column, and to an earlier one only on lines that end short. -/
theorem Settled.slotFor_le (h : nav.Settled p) (hraw : nav.reader.line? p.line = some raw) :
    nav.slotFor p.line (min p.column (raw.length + 1)) ≤ p.column ∧
      (nav.slotFor p.line (min p.column (raw.length + 1)) ≠ p.column →
        nav.LineEndsShort p.line) := by
  obtain ⟨raw', hraw', haction, htext⟩ := h.within
  cases hraw.symm.trans hraw'
  cases hline : nav.actionLine? p.line with
  | none =>
    have hparse : ActionLine.parse? nav.frameColumns raw = none := by
      rwa [actionLine?, hraw] at hline
    rw [slotFor, hline]
    dsimp only
    rw [Nat.min_eq_left (htext hparse).2]
    exact ⟨Nat.le_refl _, fun hne => absurd rfl hne⟩
  | some action =>
    obtain ⟨raw', hraw', hparse⟩ := actionLine?_eq_some_iff.mp hline
    cases hraw.symm.trans hraw'
    obtain ⟨hbounds, hsnap, -⟩ := haction action hparse
    have hexpressible := ActionLine.expressible_of_parse? hparse
    have hslot := ActionLine.snap_eq_self_iff.mp hsnap
    have hmem := (mem_slots_iff_snap hexpressible).mpr ⟨hbounds, hsnap⟩
    rw [slotFor, hline]
    dsimp only
    refine ⟨ActionLine.snap_le_of_isSlot hslot (Nat.min_le_left ..), fun hne => ?_⟩
    rw [lineEndsShort_iff hraw hparse]
    by_contra hshort
    refine hne (ActionLine.snap_min_eq_self_iff.mpr ⟨hslot, fun slot => ?_⟩)
    exact column_le_of_not_endsShort hexpressible hshort hmem

end Navigation

namespace Session

variable {session : Session} {effect : SelectionEffect} {m : Movement} {p : Position} {raw : Text}
  {action : ActionLine}

/-- The session is given its own text again. -/
def reload (session : Session) : Session := session.setText session.document.text

/-! ### What happens -/

/-- **The caret** stays on its line, if it is one of the document, its column is moved to where the
text of the line ends and from there to a slot, and the selection is dropped. -/
theorem reload_eq (hraw : session.document.reader.line? session.caret.position.line = some raw) :
    session.reload =
      { session with
        document := session.document.setText session.document.text
        caret := .placedAt (.of session.caret.position.line
          (session.navigation.slotFor session.caret.position.line
            (min session.caret.position.column (raw.length + 1))))
        selection := .none } := by
  have hbounds := (session.document.isFaithful_reader _).mp ⟨raw, hraw⟩
  have hcount : (session.document.setText session.document.text).lineCount =
      session.document.reader.lineCount := rfl
  have hline : max 1 (min session.caret.position.line
      (max (session.document.setText session.document.text).lineCount 1)) =
        session.caret.position.line := by omega
  have hlength : (session.document.setText session.document.text).reader.lineLength?
      session.caret.position.line = some raw.length := by
    rw [Document.reader_setText_text, LineReader.lineLength?, hraw]
    rfl
  simp only [reload, setText, hline, hlength, Option.getD_some]
  rfl

/-! ### Where movements have put the caret -/

/-- **Giving a session its own text again** keeps the caret where a movement has put it, whatever
has become of selection and options since, if no slot lies between the end of the text of its line
and it, and it still is on one; or if its line is no action line and so long as that. Otherwise the
caret goes to another column of the line. As long as the frame count field is as wide as it was, it
never goes right, and it goes left only on action lines that end short. -/
theorem reload_keeps_caret_iff {later : Session} (hmove : (session.moveWith effect m).1 = .ok p)
    (hdocument : later.document = (session.moveWith effect m).2.document)
    (hcaret : later.caret = (session.moveWith effect m).2.caret) :
    ∃ raw column, later.document.reader.line? p.line = some raw ∧
      later.reload =
        { later with
          document := later.document.setText later.document.text
          caret := .placedAt (.of p.line column)
          selection := .none } ∧
      (column = p.column ↔
        (later.actionLine? = none → p.column ≤ raw.length + 1) ∧
        ∀ action, later.actionLine? = some action → action.IsSlot p.column ∧
          ∀ slot, action.IsSlot slot → raw.length < slot → p.column ≤ slot) ∧
      (later.options.frameColumns = session.options.frameColumns →
        column ≤ p.column ∧ (column ≠ p.column → later.navigation.LineEndsShort p.line)) := by
  have hsettled := Navigation.settled_of_move _ session.caret m p (moveWith_eq_ok_iff.mp hmove)
  obtain ⟨hposition, hkept, -⟩ := moveWith_of_ok hmove
  obtain ⟨raw, hraw, -⟩ := hsettled.within
  have hp : later.caret.position = p := by rw [hcaret, hposition]
  have hdoc : later.document = session.document := by rw [hdocument, hkept]
  have hline : later.document.reader.line? later.caret.position.line = some raw := by
    rw [hdoc, hp]
    exact hraw
  have hreload := reload_eq hline
  rw [hp] at hline hreload
  refine ⟨raw, _, hline, hreload, ?_, fun hcolumns => ?_⟩
  · rw [Navigation.slotFor_min_eq_iff, ← hp]
    rfl
  · -- whether a position is settled depends on the lines and on the width, and both are the same
    have hsame : later.navigation.Settled p := by
      have hreader : later.navigation.reader = session.navigation.reader := by
        rw [navigation, navigation, hdoc]
      have hwidth : later.navigation.frameColumns = session.navigation.frameColumns := hcolumns
      exact ⟨hsettled.one_le_line, hreader ▸ hsettled.line_le, hreader ▸ hwidth ▸ hsettled.within⟩
    exact hsame.slotFor_le hline

/-- Before the blanks at the end of a line the caret is kept: no slot comes after it. That the
options are others by then, apart from the width, makes no difference. -/
theorem reload_keeps_caret_before_blanks :
    ∃ session later : Session,
      session = (start (.ofText "# a\n  15,R,J   ".toList) .usual).placeCaret (.of 2 5) ∧
      (session.moveWith .extend .lineEnd).1 = .ok (.of 2 9) ∧
      later = { (session.moveWith .extend .lineEnd).2 with options := ⟨4, 3, false⟩ } ∧
      later.reload.caret = .placedAt (.of 2 9) := by
  obtain ⟨session, hsession⟩ : ∃ session : Session, session =
      (start (.ofText "# a\n  15,R,J   ".toList) .usual).placeCaret (.of 2 5) := ⟨_, rfl⟩
  obtain ⟨later, hlater⟩ : ∃ later : Session, later =
      { (session.moveWith .extend .lineEnd).2 with options := ⟨4, 3, false⟩ } := ⟨_, rfl⟩
  have hmove : (session.moveWith .extend .lineEnd).1 = .ok (.of 2 9) := by
    rw [hsession]
    exact Outcome.toOption_eq_some_iff.mp (by decide +kernel)
  have hdocument : later.document = (session.moveWith .extend .lineEnd).2.document := by
    rw [hlater]
  have hcaret : later.caret = (session.moveWith .extend .lineEnd).2.caret := by rw [hlater]
  refine ⟨session, later, hsession, hmove, hlater, ?_⟩
  obtain ⟨raw, column, hraw, hreload, hkept, -⟩ := reload_keeps_caret_iff hmove hdocument hcaret
  rw [Position.line_of] at hraw
  rw [Position.column_of] at hkept
  have hlength : later.document.reader.lineLength? 2 = some 11 := by
    rw [hdocument, hsession]
    decide +kernel
  have hslot : later.actionLine?.map (·.snap 9) = some 9 := by
    rw [hlater, hsession]
    decide +kernel
  have hcolumn : column = 9 := by
    refine hkept.mpr ⟨fun hnone => ?_, fun action haction => ⟨?_, fun slot _ hlt => ?_⟩⟩
    · rw [hnone] at hslot
      cases hslot
    · rw [haction, Option.map_some, Option.some.injEq] at hslot
      exact ActionLine.snap_eq_self_iff.mp hslot
    · rw [LineReader.lineLength?, hraw, Option.map_some, Option.some.injEq] at hlength
      omega
  rw [hreload, hcolumn]
  rfl

/-- At the end of a line without its padding, beyond its text, the caret goes back by an input. -/
theorem reload_moves_caret_without_padding :
    ((start (.ofText "15,R,J".toList) .usual).moveWith .drop .lineEnd).1 = .ok (.of 1 9) ∧
      ((start (.ofText "15,R,J".toList) .usual).moveWith .drop .lineEnd).2.reload.caret =
        .placedAt (.of 1 7) :=
  ⟨Outcome.toOption_eq_some_iff.mp (by decide +kernel), by decide +kernel⟩

/-- **At the end of a line that ends short** the caret is not kept: it goes back to an earlier
slot. -/
theorem reload_at_line_end
    (hshort : session.navigation.LineEndsShort session.caret.position.line)
    (effect : SelectionEffect) :
    ∃ last column,
      (session.moveWith effect .lineEnd).1 = .ok (.of session.caret.position.line last) ∧
      (session.moveWith effect .lineEnd).2.reload.caret =
        .placedAt (.of session.caret.position.line column) ∧
      column < last := by
  obtain ⟨raw, action, hraw, hparse, hends⟩ := hshort
  have hmove : (session.moveWith effect .lineEnd).1 =
      .ok (.of session.caret.position.line (Navigation.lastSlot action raw)) :=
    moveWith_eq_ok_iff.mpr
      (Navigation.move_lineEnd_of_action session.document.isFaithful_reader hraw hparse)
  obtain ⟨hposition, hdocument, hoptions⟩ := moveWith_of_ok hmove
  refine ⟨Navigation.lastSlot action raw,
    action.snap (min (Navigation.lastSlot action raw) (raw.length + 1)), hmove, ?_, ?_⟩
  · generalize (session.moveWith effect .lineEnd).2 = later at hposition hdocument hoptions ⊢
    have hnavigation : later.navigation = session.navigation := by
      rw [navigation, navigation, hdocument, hoptions]
    have hline : later.document.reader.line? later.caret.position.line = some raw := by
      rw [hdocument, hposition]
      exact hraw
    have haction := Navigation.actionLine?_eq_some_iff.mpr ⟨raw, hraw, hparse⟩
    rw [reload_eq hline, hposition, hnavigation, Position.line_of, Position.column_of,
      Navigation.slotFor, haction]
  · have hexpressible := ActionLine.expressible_of_parse? hparse
    have hend := (Navigation.landingSlot_endColumn_lt_iff hexpressible raw).mpr hends
    refine Nat.lt_of_le_of_lt (action.snap_mono ?_) hend
    rw [Navigation.reach, show raw.endColumn = raw.length + 1 from rfl]
    omega

end Session

end FrameScript
