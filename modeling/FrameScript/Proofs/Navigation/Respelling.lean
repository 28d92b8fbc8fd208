import FrameScript.Proofs.Document.LineEdit
import FrameScript.Proofs.Navigation.Total

/-!
# The spelling of an action line

An action line can be written with blanks or without them, in letters of either case, and with its
inputs in any order and more than once. The rules of action lines go by what was read, but not by
that alone. They also look at the text as it stands: for the columns that can be reached, for the
last slot of the line, and for the numbers behind feather. So the caret could behave differently on
two lines that say the same.

Without feather it does not. The last slot is the last edge then, and columns beyond it are snapped
back to it, so that it makes no difference how far the text reaches; and there are no numbers.

## Main definitions

* `Movement.ruled` — the movements that action lines have rules for
* `Navigation.Respells` — what that means if both texts are read as the same action line

## Main results

* `Navigation.decideWithin_eq_handOver_iff` — all other movements are left to the text mover
* `Navigation.landingSlot_eq_snap`, `Navigation.decideWithin_of_not_feather` — without feather the
  text has no part in the rules
* `Navigation.Respells.decide_eq`, `Navigation.Respells.land_eq`, `Navigation.Respells.move_eq` —
  the two runs, stage by stage
* `Navigation.move_eq_of_respelled` — movements in documents that differ in spelling
-/

namespace FrameScript

/-- The movements that action lines have rules for. -/
def Movement.ruled : List Movement :=
  [charLeft, charRight, wordLeft, wordRight, lineUp, lineDown, lineStart, lineEnd, backspace]

/-- Columns are counted from 1, and column 0 counts as the first. -/
theorem ActionLine.snap_max_one (line : ActionLine) (column : Nat) :
    line.snap (max 1 column) = line.snap column := by
  have hone : max (max 1 column) 1 = max column 1 := by omega
  simp only [snap, hone]

namespace Navigation

variable {nav nav' : Navigation} {caret : Caret} {m : Movement} {action : ActionLine}
  {raw raw' : Text} {p : Position} {line : Nat}

/-! ### What is left to the text mover -/

/-- Action lines leave a movement to the text mover exactly if they have no rule for it. -/
theorem decideWithin_eq_handOver_iff :
    decideWithin action raw p m = .handOver ↔ m ∉ Movement.ruled := by
  cases m <;> cases hregion : action.region p.column <;>
    simp [decideWithin, hregion, Movement.ruled]

theorem decide_ne_handOver (hm : m ∈ Movement.ruled) :
    nav.decide action raw p m ≠ .ok .handOver := by
  have hwithin : decideWithin action raw p m ≠ .handOver := fun h =>
    decideWithin_eq_handOver_iff.mp h hm
  rw [decide]
  split
  · intro hwrap
    obtain ⟨column, -, hcolumn⟩ := Outcome.map_eq_ok_iff.mp hwrap
    cases hcolumn
  · split
    · intro hwrap
      cases hwrap
    · exact fun h => hwithin (Except.ok.inj h)

/-! ### Without feather -/

section NoFeather

variable (h : action.Expressible) (hfeather : .feather ∉ action.inputs)

include h hfeather

theorem lastSlot_eq_lastEdge (raw : Text) : lastSlot action raw = action.lastEdge := by
  rw [lastSlot_eq h, if_neg hfeather]

/-- Columns land where they are snapped, whether the text reaches so far or not. -/
theorem landingSlot_eq_snap (raw : Text) (column : Nat) :
    landingSlot action raw column = action.snap column := by
  have horder := edges_in_order h raw
  rcases Nat.lt_or_ge (reach action raw) column with hbeyond | hwithin
  · have hlast := lastSlot_eq_lastEdge h hfeather raw
    rw [landingSlot_of_lastSlot_le h (by omega), hlast, h.snap_eq, if_neg (by omega),
      if_neg (by omega), if_neg hfeather]
  · rw [landingSlot, Nat.min_eq_left hwithin, ActionLine.snap_max_one]

/-- Within the line the rules do not look at the text. -/
theorem decideWithin_of_not_feather (hslot : action.IsSlot p.column) (raw raw' : Text)
    (m : Movement) : decideWithin action raw p m = decideWithin action raw' p m := by
  have hlast := lastSlot_eq_lastEdge h hfeather raw
  have hlast' := lastSlot_eq_lastEdge h hfeather raw'
  rcases h.region_cases hslot with ⟨hregion, -⟩ | ⟨hregion, -⟩ | ⟨hregion, -⟩ | ⟨-, hin, -⟩ |
    ⟨-, hin, -⟩
  · cases m <;> simp only [decideWithin, hregion, hlast, hlast']
  · cases m <;> simp only [decideWithin, hregion, hlast, hlast']
  · cases m <;> simp only [decideWithin, hregion, hlast, hlast']
  · exact absurd hin hfeather
  · exact absurd hin hfeather

end NoFeather

/-! ### Two spellings -/

/-- The navigations read the same lines but for one, and that they read as the same action line.
They may have different text movers. -/
structure Respells (nav nav' : Navigation) (line : Nat) (action : ActionLine) : Prop where
  frameColumns : nav'.frameColumns = nav.frameColumns
  lineCount : nav'.reader.lineCount = nav.reader.lineCount
  /-- All other lines are the same. -/
  other : ∀ k, k ≠ line → nav'.reader.line? k = nav.reader.line? k
  parsed : nav.actionLine? line = some action
  parsed' : nav'.actionLine? line = some action

namespace Respells

variable (h : Respells nav nav' line action)

include h

theorem expressible : action.Expressible := by
  obtain ⟨raw, -, hparse⟩ := actionLine?_eq_some_iff.mp h.parsed
  exact ActionLine.expressible_of_parse? hparse

theorem lastSlotOf_eq {k : Nat} (hk : k ≠ line) : nav.lastSlotOf k = nav'.lastSlotOf k := by
  rw [lastSlotOf, lastSlotOf, PlainText.readLine, PlainText.readLine, h.other k hk, h.frameColumns]

variable (hfeather : .feather ∉ action.inputs)

include hfeather

/-- **Targets** are landed on in the same way. -/
theorem land_eq (target : Position) (byRule : Bool) :
    nav.land target byRule = nav'.land target byRule := by
  have hline : nav'.landingLine target.line = nav.landingLine target.line := by
    rw [landingLine, landingLine, h.lineCount]
  by_cases hother : nav.landingLine target.line = line
  · obtain ⟨raw, hraw, hparse⟩ := actionLine?_eq_some_iff.mp h.parsed
    obtain ⟨raw', hraw', hparse'⟩ := actionLine?_eq_some_iff.mp h.parsed'
    rw [land_of_action (by rwa [hother]) hparse, land_of_action (by rwa [hline, hother]) hparse',
      landingSlot_eq_snap h.expressible hfeather, landingSlot_eq_snap h.expressible hfeather, hline]
  · have hread := h.other _ hother
    rw [landingLine] at hread
    simp only [land, PlainText.readLine, h.lineCount, hread, h.frameColumns]

/-- **The rules** decide the same from every slot of the line. A line above is another line. -/
theorem decide_eq {column : Nat} (hslot : action.IsSlot column) (raw raw' : Text) (m : Movement) :
    nav.decide action raw (.of line column) m = nav'.decide action raw' (.of line column) m := by
  have hlast := lastSlot_eq_lastEdge h.expressible hfeather
  rw [decide, decide, hlast, hlast, h.lineCount,
    decideWithin_of_not_feather h.expressible hfeather hslot raw raw', Position.line_of]
  by_cases hwrap : m.isLeftward ∧ column ≤ action.firstDigit ∧ 1 < line
  · rw [Position.column_of, if_pos hwrap, if_pos hwrap, h.lastSlotOf_eq (by omega)]
  · rw [Position.column_of, if_neg hwrap, if_neg hwrap]

variable (hcaret : caret.position.line = line) (hm : m ∈ Movement.ruled)

include hcaret hm

theorem destination_eq : nav.destination caret m = nav'.destination caret m := by
  obtain ⟨raw, hraw, hparse⟩ := actionLine?_eq_some_iff.mp h.parsed
  obtain ⟨raw', hraw', hparse'⟩ := actionLine?_eq_some_iff.mp h.parsed'
  rw [← hcaret] at hraw hraw'
  rw [destination_of_action hraw hparse, destination_of_action hraw' hparse',
    landingSlot_eq_snap h.expressible hfeather, landingSlot_eq_snap h.expressible hfeather, hcaret,
    h.decide_eq hfeather (action.isSlot_snap _) raw raw']
  cases hanswer : nav'.decide action raw' (.of line (action.snap caret.position.column)) m with
  | error e => rfl
  | ok decision =>
    rw [Outcome.ok_bind, Outcome.ok_bind]
    cases decision with
    | toColumn column => rfl
    | toLine line => rfl
    | wrapTo target => rfl
    | handOver => exact absurd hanswer (decide_ne_handOver hm)

/-- **Movements** that there are rules for have the same answer, and leave the same caret. -/
theorem move_eq : nav.move caret m = nav'.move caret m := by
  have hland : nav.land = nav'.land := funext₂ (h.land_eq hfeather)
  rw [move, move, moved, moved, h.destination_eq hfeather hcaret hm, hland]

end Respells

/-! ### Documents -/

/-- Since the text mover is not asked, it cannot make such a movement fail. -/
theorem exists_move_ok_of_ruled {doc : Document} (hdoc : nav.reader = doc.reader)
    (haction : nav.actionLine? caret.position.line = some action)
    (hfeather : .feather ∉ action.inputs) (hm : m ∈ Movement.ruled) :
    ∃ p, (nav.move caret m).1 = .ok p := by
  let other : Navigation := { nav with text := PlainText.mover PlainText.usualPageLines }
  have hother : Respells nav other caret.position.line action :=
    ⟨rfl, rfl, fun _ _ => rfl, haction, haction⟩
  have hreader : other.reader = doc.reader := hdoc
  obtain ⟨raw, hraw, -⟩ := actionLine?_eq_some_iff.mp haction
  have hline := (doc.isFaithful_reader caret.position.line).mp ⟨raw, hdoc ▸ hraw⟩
  obtain ⟨p, hp, -⟩ := exists_move_ok hreader rfl hline m
  rw [hother.move_eq hfeather rfl hm]
  exact ⟨p, hp⟩

/-- **Spelling makes no difference** without feather. If two documents differ in one line and that
is read as the same action line in both, without feather, then from any column of the line every
movement that action lines have rules for has the same answer in both, hints for the display
included, and leaves the same caret; and it succeeds. -/
theorem move_eq_of_respelled {doc doc' : Document} (hdiffer : doc.DiffersAt doc' line raw raw')
    (hdoc : nav.reader = doc.reader) (hdoc' : nav'.reader = doc'.reader)
    (hcolumns : nav'.frameColumns = nav.frameColumns)
    (hparse : ActionLine.parse? nav.frameColumns raw = some action)
    (hparse' : ActionLine.parse? nav.frameColumns raw' = some action)
    (hfeather : .feather ∉ action.inputs) (hcaret : caret.position.line = line)
    (hm : m ∈ Movement.ruled) :
    nav.move caret m = nav'.move caret m ∧ ∃ p, (nav.move caret m).1 = .ok p := by
  obtain ⟨hcount, hother, hraw, hraw'⟩ := hdiffer.line?_eq
  have hrespells : Respells nav nav' line action := by
    refine ⟨hcolumns, ?_, ?_, ?_, ?_⟩
    · rw [hdoc, hdoc']
      exact hcount
    · rwa [hdoc, hdoc']
    · exact actionLine?_eq_some_iff.mpr ⟨raw, hdoc ▸ hraw, hparse⟩
    · exact actionLine?_eq_some_iff.mpr ⟨raw', hdoc' ▸ hraw', hcolumns ▸ hparse'⟩
  refine ⟨hrespells.move_eq hfeather hcaret hm, ?_⟩
  rw [← hcaret] at hrespells
  exact exists_move_ok_of_ruled hdoc hrespells.parsed hfeather hm

/-- Far behind the end of a line without padding, with blanks, a small letter and an input named
twice, a step down leads where it leads from the printed line, though the pages differ in length. -/
theorem move_eq_of_scrambled_line :
    ∃ nav nav' : Navigation,
      nav = ofDocument (.ofText "# a\n15, j ,r, R\nword".toList) 20 4 ∧
      nav' = ofDocument (.ofText "# a\n  15,R,J\nword".toList) 5 4 ∧
      nav.move ⟨⟨2, 40, 7, true⟩, some 3⟩ .lineDown =
        nav'.move ⟨⟨2, 40, 7, true⟩, some 3⟩ .lineDown ∧
      nav'.move ⟨⟨2, 40, 7, true⟩, some 3⟩ .lineDown = (.ok (.of 3 5), ⟨.of 3 5, some 3⟩) := by
  obtain ⟨nav, hnav⟩ : ∃ nav : Navigation,
    nav = ofDocument (.ofText "# a\n15, j ,r, R\nword".toList) 20 4 := ⟨_, rfl⟩
  obtain ⟨nav', hnav'⟩ : ∃ nav' : Navigation,
    nav' = ofDocument (.ofText "# a\n  15,R,J\nword".toList) 5 4 := ⟨_, rfl⟩
  have hdiffer : (Document.ofText "# a\n15, j ,r, R\nword".toList).DiffersAt
      (.ofText "# a\n  15,R,J\nword".toList) 2 "15, j ,r, R".toList "  15,R,J".toList :=
    ⟨['\n'], by decide +kernel, by decide +kernel⟩
  have hparse : ActionLine.parse? nav.frameColumns "15, j ,r, R".toList =
      some ((ActionLine.ofFrames 15 (.ofList [.right, .jump])).withWidth 4) := by
    rw [hnav]
    decide +kernel
  have hparse' : ActionLine.parse? nav.frameColumns "  15,R,J".toList =
      some ((ActionLine.ofFrames 15 (.ofList [.right, .jump])).withWidth 4) := by
    rw [hnav]
    decide +kernel
  have hdoc : nav.reader = (Document.ofText "# a\n15, j ,r, R\nword".toList).reader := by
    rw [hnav, ofDocument]
  have hdoc' : nav'.reader = (Document.ofText "# a\n  15,R,J\nword".toList).reader := by
    rw [hnav', ofDocument]
  have hcolumns : nav'.frameColumns = nav.frameColumns := by
    rw [hnav, hnav', ofDocument, ofDocument]
  have hcaret : (Caret.mk ⟨2, 40, 7, true⟩ (some 3)).position.line = 2 := rfl
  have hmove := move_eq_of_respelled hdiffer hdoc hdoc' hcolumns hparse hparse' (by decide +kernel)
    hcaret (show Movement.lineDown ∈ Movement.ruled by decide)
  refine ⟨nav, nav', hnav, hnav', hmove.1, ?_⟩
  rw [hnav']
  decide +kernel

/-- With feather it does make a difference, because the caret can go as far as the text. -/
example :
    ((ofDocument (.ofText "  15,F".toList) 20 4).move (.placedAt .start) .lineEnd).1 ≠
      ((ofDocument (.ofText "  15,F   ".toList) 20 4).move (.placedAt .start) .lineEnd).1 := by
  decide +kernel

end Navigation

end FrameScript
