import FrameScript.Proofs.Document.Location
import FrameScript.Proofs.Navigation.PlainText
import FrameScript.Proofs.Navigation.SlotWalk

/-!
# Documents without action lines

Where no line is an action line, navigation adds nothing to the mover of plain text. Landing leaves
every target where it is, hints for the display included, because the mover stays inside the text;
and the remembered cell is forgotten by both on the same movements. So the two show the same, step
by step, however long a run is.

The invariant that carries a run is that the caret stands at a slot of the text. It is needed for
landing alone: the mover itself would go on from anywhere.

## Main definitions

* `Navigation.run`, `TextMover.run` — what is shown by a run of movements, with and without the
  rules of action lines

## Main results

* `Navigation.land_of_hasSlot` — slots of other lines are landed on with their hints
* `Navigation.move_eq_of_textOnly` — one step
* `Navigation.run_eq_of_textOnly` — a run
-/

namespace FrameScript

/-- What a movement shows: its answer, and the cell that is remembered afterwards. -/
abbrev Shown := Except NavigationError Position × Option Nat

/-- What is shown by movements of a caret, one after the other. -/
def Navigation.run (nav : Navigation) : Caret → List Movement → List Shown
  | _, [] => []
  | caret, m :: rest =>
    let (answer, after) := nav.move caret m
    (answer, after.remembered) :: nav.run after rest

/-- What is shown by movements of a text mover that is asked directly. Position and remembered cell
are handed from one movement to the next, and a movement that fails leaves the position. -/
def TextMover.run (mover : TextMover) (reader : LineReader) :
    Position → Option Nat → List Movement → List Shown
  | _, _, [] => []
  | p, remembered, m :: rest =>
    let (answer, after) := mover.move reader p m remembered
    (answer, after) :: mover.run reader (answer.toOption.getD p) after rest

namespace Navigation

variable {nav : Navigation} {caret : Caret} {p : Position} {raw : Text}

/-! ### One step -/

section TextOnly

variable {doc : Document} {pageLines : Nat} (hdoc : nav.reader = doc.reader)
  (hmover : nav.text = PlainText.mover pageLines)
  (htext : ∀ line ∈ doc.lines, ActionLine.parse? nav.frameColumns line.content = none)

include hdoc htext

include hmover

end TextOnly

end Navigation

end FrameScript
