import FrameScript.Proofs.Document.Location
import FrameScript.Proofs.Navigation.PlainText
import FrameScript.Proofs.Navigation.SlotWalk

/-!
# Movements that cannot fail

A movement fails if a line that it needs is not there. In a document, and with the mover of plain
text, no movement needs such a line as long as the caret is on a line of the document: the rules of
action lines wrap only to neighbours that they have seen to exist, the mover does the same, and
landing moves every target into the document first.

## Main results

* `Navigation.exists_decide_ok`, `Navigation.exists_handOver_ok` — neither the rules nor the mover
  fail
* `Navigation.exists_move_ok` — no movement does, and the caret stays on the lines of the document
-/

namespace FrameScript

namespace Navigation

variable {nav : Navigation}

section Total

variable {p : Position} (hreader : nav.reader.IsFaithful)
  (hline : 1 ≤ p.line ∧ p.line ≤ nav.reader.lineCount)

include hreader hline

/-- The rules look at the line above only if there is one. -/
theorem exists_decide_ok (action : ActionLine) (raw : Text) (m : Movement) :
    ∃ decision, nav.decide action raw p m = .ok decision := by
  rw [decide]
  split
  · have habove : 1 ≤ p.line - 1 ∧ p.line - 1 ≤ nav.reader.lineCount := by omega
    obtain ⟨last, hlast, -⟩ := exists_lastSlotOf hreader habove
    rw [hlast]
    exact ⟨_, rfl⟩
  · split
    · exact ⟨_, rfl⟩
    · exact ⟨_, rfl⟩

variable {pageLines : Nat} (hmover : nav.text = PlainText.mover pageLines)
  (hend : ∃ stop, nav.reader.position? nav.reader.textLength = some stop)

include hmover hend

theorem exists_handOver_ok (m : Movement) (remembered : Option Nat) :
    ∃ d, nav.handOver p m remembered = .ok d := by
  obtain ⟨q, hq⟩ := PlainText.exists_move_ok hreader hline hend pageLines m remembered
  rw [handOver, hmover]
  dsimp only
  rw [hq]
  exact ⟨_, rfl⟩

end Total

variable {caret : Caret} {pageLines : Nat}

theorem exists_destination_ok (hreader : nav.reader.IsFaithful)
    (hline : 1 ≤ caret.position.line ∧ caret.position.line ≤ nav.reader.lineCount)
    (hmover : nav.text = PlainText.mover pageLines)
    (hend : ∃ stop, nav.reader.position? nav.reader.textLength = some stop) (m : Movement) :
    ∃ d, nav.destination caret m = .ok d := by
  obtain ⟨raw, hraw⟩ := (hreader _).mpr hline
  cases hparse : ActionLine.parse? nav.frameColumns raw with
  | none =>
    rw [destination_of_text hraw hparse]
    exact exists_handOver_ok hreader hline hmover hend m caret.remembered
  | some action =>
    rw [destination_of_action hraw hparse]
    generalize hp : Position.of caret.position.line
      (landingSlot action raw caret.position.column) = p
    have hline : 1 ≤ p.line ∧ p.line ≤ nav.reader.lineCount := by
      rw [← hp]
      exact hline
    obtain ⟨decision, hdecide⟩ := exists_decide_ok hreader hline action raw m
    rw [hdecide, Outcome.ok_bind]
    cases decision with
    | toColumn column => exact ⟨_, rfl⟩
    | toLine line => exact ⟨_, rfl⟩
    | wrapTo target => exact ⟨_, rfl⟩
    | handOver => exact exists_handOver_ok hreader hline hmover hend m caret.remembered

/-- **No movement fails** in a document while the caret is on one of its lines, and the caret stays
on its lines. -/
theorem exists_move_ok {doc : Document} (hdoc : nav.reader = doc.reader)
    (hmover : nav.text = PlainText.mover pageLines)
    (hline : 1 ≤ caret.position.line ∧ caret.position.line ≤ doc.lineCount) (m : Movement) :
    ∃ p, (nav.move caret m).1 = .ok p ∧ 1 ≤ p.line ∧ p.line ≤ doc.lineCount := by
  have hreader : nav.reader.IsFaithful := hdoc ▸ doc.isFaithful_reader
  have hcount : nav.reader.lineCount = doc.lineCount := by rw [hdoc]; rfl
  have hend : ∃ stop, nav.reader.position? nav.reader.textLength = some stop := by
    obtain ⟨stop, hstop, -⟩ := doc.exists_position?_length
    rw [hdoc]
    exact ⟨stop, hstop⟩
  rw [← hcount] at hline ⊢
  obtain ⟨d, hd⟩ := exists_destination_ok hreader hline hmover hend m
  obtain ⟨p, hland, -⟩ := exists_land hreader (Nat.le_trans hline.1 hline.2) d.target d.byRule
  have hmove : (nav.move caret m).1 = .ok p := move_eq_ok_iff.mpr ⟨d, hd, hland⟩
  have hsettled := settled_of_move nav caret m p hmove
  refine ⟨p, hmove, hsettled.one_le_line, ?_⟩
  have := hsettled.line_le
  omega

end Navigation

end FrameScript
