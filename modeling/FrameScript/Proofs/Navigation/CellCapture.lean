import FrameScript.Proofs.Navigation.PlainText
import FrameScript.Proofs.Navigation.Remembered

/-!
# The cell of a vertical stretch

The remembered cell is written in two places. The text mover writes it when it is asked for a
vertical movement and there is none; navigation erases it after every other movement. The rules of
action lines do neither: up and down by a line they keep the column, and the cell is no business of
theirs.

So in a stretch of vertical movements, over lines of both kinds, there is no cell at first. It comes
with the first movement that is left to the mover, from where the caret stands then; on an action
line that is the slot that the caret belongs to, since this is what the mover is given. After that
nothing in the stretch changes it.

## Main definitions

* `Navigation.Walks` — a run of movements that succeed
* `Navigation.ByLineRule` — up or down by a line, by the rules of action lines
* `Navigation.LeftToMover` — a movement that is left to the text mover, and where that begins

## Main results

* `Navigation.byLineRule_or_leftToMover` — every vertical movement is one or the other
* `Navigation.remembered_of_byLineRule`, `Navigation.remembered_of_leftToMover` — what one of them
  does to the cell
* `Navigation.Walks.remembered_of_byLineRule`, `Navigation.Walks.remembered_of_vertical` — what a
  stretch of them does
* `Navigation.Walks.byLineRule_or` — where a stretch is first left to the mover
* `Navigation.cell_captured_once` — all runs
-/

namespace FrameScript

/-- The mover of plain text keeps to the cell that there is, or takes that of the column where it
begins. -/
theorem PlainText.remembered_of_vertical {reader : LineReader} {p : Position} {m : Movement}
    {raw : Text} (pageLines : Nat) (hraw : reader.line? p.line = some raw)
    (hm : m.isVertical = true) (remembered : Option Nat) :
    ((mover pageLines).move reader p m remembered).2 =
      some (remembered.getD (raw.cellsBefore p.column)) := by
  simp only [mover, hm, if_true, moveVertically, readLine_eq_ok_iff.mpr hraw]
  split <;> rfl

namespace Navigation

variable {nav : Navigation} {caret next last : Caret} {m : Movement} {raw : Text}
  {column x : Nat} {ms : List Movement} {allowed : Caret → Movement → Prop}

/-! ### Runs -/

/-- Movements of a caret lead to another, one after the other. All of them succeed, and each is
allowed where it begins. -/
inductive Walks (nav : Navigation) (allowed : Caret → Movement → Prop) :
    Caret → List Movement → Caret → Prop
  | nil (caret : Caret) : Walks nav allowed caret [] caret
  | cons {caret next last : Caret} {m : Movement} {rest : List Movement} (hm : allowed caret m)
    (hmove : nav.move caret m = (.ok next.position, next))
    (hrest : Walks nav allowed next rest last) :
    Walks nav allowed caret (m :: rest) last

/-! ### Two kinds of vertical movements -/

/-- The movement goes up or down by a line from an action line, and so by its rules. -/
def ByLineRule (nav : Navigation) (caret : Caret) (m : Movement) : Prop :=
  (m = .lineUp ∨ m = .lineDown) ∧ ∃ action, nav.actionLine? caret.position.line = some action

/-- The movement is left to the text mover, on a line with a text and from a column of it: from
that of the caret, if this is no action line, and otherwise, if the rules have no answer, from the
slot that it belongs to. -/
inductive LeftToMover (nav : Navigation) (caret : Caret) (m : Movement) (raw : Text) : Nat → Prop
  | ofText (hraw : nav.reader.line? caret.position.line = some raw)
    (htext : ActionLine.parse? nav.frameColumns raw = none) :
    LeftToMover nav caret m raw caret.position.column
  | ofAction {action : ActionLine} (hraw : nav.reader.line? caret.position.line = some raw)
    (haction : ActionLine.parse? nav.frameColumns raw = some action)
    (hdecide : nav.decide action raw
      (.of caret.position.line (landingSlot action raw caret.position.column)) m = .ok .handOver) :
    LeftToMover nav caret m raw (landingSlot action raw caret.position.column)

/-- **A vertical movement** that succeeds is one or the other. -/
theorem byLineRule_or_leftToMover (hm : m.isVertical = true)
    (hmove : nav.move caret m = (.ok next.position, next)) :
    nav.ByLineRule caret m ∨ ∃ raw column, nav.LeftToMover caret m raw column := by
  cases hraw : nav.reader.line? caret.position.line with
  | none =>
    rw [move_of_no_line hraw] at hmove
    cases hmove
  | some raw =>
    cases hparse : ActionLine.parse? nav.frameColumns raw with
    | none => exact Or.inr ⟨raw, _, .ofText hraw hparse⟩
    | some action =>
      have haction := actionLine?_eq_some_iff.mpr ⟨raw, hraw, hparse⟩
      cases m
      case lineUp => exact Or.inl ⟨Or.inl rfl, action, haction⟩
      case lineDown => exact Or.inl ⟨Or.inr rfl, action, haction⟩
      case pageUp => exact Or.inr ⟨raw, _, .ofAction hraw hparse (decide_of_page (Or.inl rfl))⟩
      case pageDown => exact Or.inr ⟨raw, _, .ofAction hraw hparse (decide_of_page (Or.inr rfl))⟩
      all_goals cases hm

/-- By the rules of action lines the cell stays as it is. -/
theorem remembered_of_byLineRule (h : nav.ByLineRule caret m)
    (hmove : nav.move caret m = (.ok next.position, next)) :
    next.remembered = caret.remembered := by
  obtain ⟨hm, action, haction⟩ := h
  obtain ⟨raw, hraw, hparse⟩ := actionLine?_eq_some_iff.mp haction
  rcases hm with rfl | rfl
  · exact ((move_of_line_iff hraw hparse (Or.inl ⟨rfl, rfl⟩)).mp hmove).2
  · exact ((move_of_line_iff hraw hparse (Or.inr ⟨rfl, rfl⟩)).mp hmove).2

/-- Where the mover begins and with which cell. -/
theorem LeftToMover.destination_eq (h : nav.LeftToMover caret m raw column) :
    ∃ start, nav.reader.line? start.line = some raw ∧ start.column = column ∧
      nav.destination caret m = nav.handOver start m caret.remembered := by
  cases h with
  | ofText hraw htext => exact ⟨caret.position, hraw, rfl, destination_of_text hraw htext⟩
  | @ofAction action hraw haction hdecide =>
    refine ⟨.of caret.position.line (landingSlot action raw caret.position.column), hraw, rfl, ?_⟩
    rw [destination_of_action hraw haction, hdecide]
    rfl

/-- **Left to the mover of plain text** there is a cell afterwards: the one there was, or that of
the column where the mover begins. -/
theorem remembered_of_leftToMover {pageLines : Nat} (hmover : nav.text = PlainText.mover pageLines)
    (hm : m.isVertical = true) (h : nav.LeftToMover caret m raw column)
    (hmove : nav.move caret m = (.ok next.position, next)) :
    next.remembered = some (caret.remembered.getD (raw.cellsBefore column)) := by
  obtain ⟨start, hraw, rfl, hdestination⟩ := h.destination_eq
  obtain ⟨d, hd, hland, hcell⟩ := (move_of_isVertical_iff hm).mp hmove
  obtain ⟨target, htarget, -⟩ :=
    moverLeads_iff.mpr ⟨d, hdestination.symm.trans hd, hland, hcell⟩
  have hwritten := PlainText.remembered_of_vertical pageLines hraw hm caret.remembered
  rw [← hmover, htarget] at hwritten
  exact hwritten

/-! ### Stretches of vertical movements -/

/-- A run that has not begun, or whose last movement was not vertical, leaves no cell. -/
theorem Walks.remembered_eq_none (h : nav.Walks allowed caret ms last)
    (hfirst : ms = [] → caret.remembered = none)
    (hlast : ∀ m ∈ ms.getLast?, m.isVertical = false) : last.remembered = none := by
  induction h with
  | nil caret => exact hfirst rfl
  | @cons caret next last m rest hm hmove hrest ih =>
    refine ih (fun hnil => ?_) fun m' hm' => hlast m' ?_
    · obtain ⟨d, -, -, hnext⟩ := move_eq_ok_caret_iff.mp hmove
      have hvertical : m.isVertical = false := hlast m (by rw [hnil]; rfl)
      rw [hnext, hvertical]
      rfl
    · rw [List.getLast?_cons, Option.mem_def.mp hm']
      rfl

/-- By the rules of action lines alone there is the cell that there was, or none. -/
theorem Walks.remembered_of_byLineRule (h : nav.Walks nav.ByLineRule caret ms last) :
    last.remembered = caret.remembered := by
  induction h with
  | nil caret => rfl
  | cons hm hmove _ ih => rw [ih, Navigation.remembered_of_byLineRule hm hmove]

section Mover

variable {pageLines : Nat} (hmover : nav.text = PlainText.mover pageLines)

include hmover

/-- **Once there is a cell** it stays, on lines of both kinds. -/
theorem Walks.remembered_of_vertical
    (h : nav.Walks (fun _ m => m.isVertical = true) caret ms last)
    (hx : caret.remembered = some x) : last.remembered = some x := by
  induction h with
  | nil caret => exact hx
  | cons hm hmove _ ih =>
    refine ih ?_
    rcases byLineRule_or_leftToMover hm hmove with hrule | ⟨raw, column, hleft⟩
    · rw [Navigation.remembered_of_byLineRule hrule hmove, hx]
    · rw [remembered_of_leftToMover hmover hm hleft hmove, hx, Option.getD_some]

/-- A stretch that begins with no cell and with a movement left to the mover has the cell where that
begins. -/
theorem Walks.remembered_of_leftToMover
    (h : nav.Walks (fun _ m => m.isVertical = true) caret (m :: ms) last)
    (hnone : caret.remembered = none) (hleft : nav.LeftToMover caret m raw column) :
    last.remembered = some (raw.cellsBefore column) := by
  cases h with
  | cons hm hmove hrest =>
    refine hrest.remembered_of_vertical hmover ?_
    rw [Navigation.remembered_of_leftToMover hmover hm hleft hmove, hnone, Option.getD_none]

end Mover

/-- A stretch is led by the rules of action lines alone, or there is a first movement in it that is
left to the mover. -/
theorem Walks.byLineRule_or (h : nav.Walks (fun _ m => m.isVertical = true) caret ms last) :
    nav.Walks nav.ByLineRule caret ms last ∨
      ∃ ruled m rest mid raw column, ms = ruled ++ m :: rest ∧
        nav.Walks nav.ByLineRule caret ruled mid ∧ nav.LeftToMover mid m raw column ∧
        nav.Walks (fun _ m => m.isVertical = true) mid (m :: rest) last := by
  induction h with
  | nil caret => exact Or.inl (.nil caret)
  | @cons caret next last m rest hm hmove hrest ih =>
    rcases byLineRule_or_leftToMover hm hmove with hrule | ⟨raw, column, hleft⟩
    · rcases ih with hruled | ⟨ruled, m', rest', mid, raw, column, rfl, hruled, hleft, hwalk⟩
      · exact Or.inl (.cons hrule hmove hruled)
      · exact Or.inr ⟨m :: ruled, m', rest', mid, raw, column, rfl, .cons hrule hmove hruled, hleft,
          hwalk⟩
    · exact Or.inr ⟨[], m, rest, caret, raw, column, rfl, .nil caret, hleft, .cons hm hmove hrest⟩

/-- **The cell is captured once in a vertical stretch.** Take any run of movements that succeed,
from a caret that has just been placed, up to where it is about to begin or its last movement was
not vertical: then no cell is remembered. Let a stretch of vertical movements follow. If the rules
of action lines lead through all of it, there is no cell at its end either. Otherwise there is a
first movement that is left to the mover, and the cell is that of the column where it begins, on
this line, at the end of the stretch and after every other vertical stretch that begins with that
movement. -/
theorem cell_captured_once {pageLines : Nat} (hmover : nav.text = PlainText.mover pageLines)
    {p : Position} {before : List Movement}
    (hbefore : nav.Walks (fun _ _ => True) (.placedAt p) before caret)
    (hstart : ∀ m ∈ before.getLast?, m.isVertical = false) :
    caret.remembered = none ∧
    ∀ stretch last, nav.Walks (fun _ m => m.isVertical = true) caret stretch last →
      (nav.Walks nav.ByLineRule caret stretch last → last.remembered = none) ∧
      (¬nav.Walks nav.ByLineRule caret stretch last →
        ∃ ruled m rest mid raw column, stretch = ruled ++ m :: rest ∧
          nav.Walks nav.ByLineRule caret ruled mid ∧ nav.LeftToMover mid m raw column ∧
          last.remembered = some (raw.cellsBefore column) ∧
          ∀ later c, nav.Walks (fun _ m => m.isVertical = true) mid (m :: later) c →
            c.remembered = some (raw.cellsBefore column)) := by
  have hnone : caret.remembered = none := hbefore.remembered_eq_none (fun _ => rfl) hstart
  refine ⟨hnone, ?_⟩
  intro stretch last hstretch
  refine ⟨?_, ?_⟩
  · intro hruled
    rw [hruled.remembered_of_byLineRule, hnone]
  · intro hnot
    obtain ⟨ruled, m, rest, mid, raw, column, hsplit, hruled, hleft, hwalk⟩ :=
      hstretch.byLineRule_or.resolve_left hnot
    -- The rules of action lines have led here, so that there is still nothing to keep.
    have hmid : mid.remembered = none := hruled.remembered_of_byLineRule.trans hnone
    refine ⟨ruled, m, rest, mid, raw, column, hsplit, hruled, hleft,
      hwalk.remembered_of_leftToMover hmover hmid hleft, ?_⟩
    intro later c h
    exact h.remembered_of_leftToMover hmover hmid hleft

/-- A script with two action lines, a line of text with wide characters, and a third action line,
on pages of two lines. -/
def ofMixedLines : Navigation :=
  ofDocument (Document.ofText "  15,R,J\n  20,R\n語語 ab\n   1".toList) 2 4

/-- Two steps down lead by the rules from the first line to the third. The step back up is left to
the mover, and captures the cell at the end of that line; the page down from the action line above
keeps it. -/
theorem cell_captured_below_action_lines :
    ofMixedLines.Walks (fun _ _ => True) (.placedAt (.of 1 9)) [.charLeft] ⟨.of 1 7, none⟩ ∧
    ofMixedLines.Walks (fun _ m => m.isVertical = true) ⟨.of 1 7, none⟩
      [.lineDown, .lineDown, .lineUp, .pageDown] ⟨.of 4 5, some 7⟩ ∧
    ∃ ruled m rest mid raw column,
      [Movement.lineDown, .lineDown, .lineUp, .pageDown] = ruled ++ m :: rest ∧
      ofMixedLines.Walks ofMixedLines.ByLineRule ⟨.of 1 7, none⟩ ruled mid ∧
      ofMixedLines.LeftToMover mid m raw column ∧ some 7 = some (raw.cellsBefore column) := by
  have hbefore : ofMixedLines.Walks (fun _ _ => True) (.placedAt (.of 1 9)) [.charLeft]
      ⟨.of 1 7, none⟩ :=
    .cons trivial (by decide +kernel) (.nil _)
  have hfirst : ofMixedLines.move ⟨.of 1 7, none⟩ .lineDown = (.ok (.of 2 7), ⟨.of 2 7, none⟩) := by
    decide +kernel
  have hsecond : ofMixedLines.move ⟨.of 2 7, none⟩ .lineDown =
      (.ok (.of 3 6), ⟨.of 3 6, none⟩) := by
    decide +kernel
  have hthird : ofMixedLines.move ⟨.of 3 6, none⟩ .lineUp =
      (.ok (.of 2 7), ⟨.of 2 7, some 7⟩) := by
    decide +kernel
  have hfourth : ofMixedLines.move ⟨.of 2 7, some 7⟩ .pageDown =
      (.ok (.of 4 5), ⟨.of 4 5, some 7⟩) := by
    decide +kernel
  have hstretch : ofMixedLines.Walks (fun _ m => m.isVertical = true) ⟨.of 1 7, none⟩
      [.lineDown, .lineDown, .lineUp, .pageDown] ⟨.of 4 5, some 7⟩ :=
    .cons rfl hfirst (.cons rfl hsecond (.cons rfl hthird (.cons rfl hfourth (.nil _))))
  have hmover : ofMixedLines.text = PlainText.mover 2 := rfl
  obtain ⟨-, hcaptured⟩ := cell_captured_once hmover hbefore (by rintro m ⟨⟩; rfl)
  obtain ⟨hruled, hleft⟩ := hcaptured _ _ hstretch
  obtain ⟨ruled, m, rest, mid, raw, column, hsplit, hwalk, hmid, hcell, -⟩ :=
    hleft fun h => Option.some_ne_none 7 (hruled h)
  exact ⟨hbefore, hstretch, ruled, m, rest, mid, raw, column, hsplit, hwalk, hmid, hcell⟩

end Navigation

end FrameScript
