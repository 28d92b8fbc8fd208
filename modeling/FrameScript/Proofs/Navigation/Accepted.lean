import FrameScript.Proofs.Navigation.PlainText
import FrameScript.Proofs.Navigation.SlotWalk

/-!
# Where the caret goes and edits do not

The caret moves over an action line in the layout that the line has when it is printed, while edits
go by the text as it stands. So that every input can be reached on a line that lacks its padding,
or writes a number in fewer characters, the caret may go beyond the text, up to where the printed
line would end. Edits are refused there. Everywhere else the caret only goes where edits are made,
and wherever a line is longer when it is printed, the key for the end of the line leads beyond its
text.

## Main definitions

* `Document.Accepts` — edits at a position are made
* `Navigation.BeyondText` — the positions between the end of the text and that of the printed line

## Main results

* `Navigation.Settled.accepts_or_beyondText` — where the caret may stand
* `Navigation.moves_accepted_or_beyondText` — where movements lead, in every document
-/

namespace FrameScript

/-! ### Positions where edits are made -/

/-- Edits at the position are made: texts are inserted there, and replace whatever is selected
between there and any position of the document. -/
structure Document.Accepts (doc : Document) (p : Position) : Prop where
  offset : (doc.offset? p).isSome = true
  insert : ∀ text, ∃ edit, (doc.insert p text).1 = .ok edit
  replace : ∀ q, (doc.offset? q).isSome = true →
    ∀ text, ∃ edit, (doc.replace (.ordered p q) text).1 = .ok edit

/-- Edits are made at every position that has an offset. -/
theorem Document.accepts_iff {doc : Document} {p : Position} :
    doc.Accepts p ↔ (doc.offset? p).isSome = true := by
  refine ⟨Accepts.offset, fun hp => ⟨hp, exists_replace_ok hp hp, fun q hq => ?_⟩⟩
  rw [Span.ordered]
  split
  · exact exists_replace_ok hp hq
  · exact exists_replace_ok hq hp

namespace Navigation

variable {nav : Navigation} {doc : Document} {p : Position} {line : Nat} {raw : Text}
  {action : ActionLine}

/-- The position lies beyond the text of an action line, but not beyond the printed line. -/
def BeyondText (nav : Navigation) (p : Position) : Prop :=
  ∃ raw action, nav.reader.line? p.line = some raw ∧
    ActionLine.parse? nav.frameColumns raw = some action ∧
    raw.length + 1 < p.column ∧ p.column ≤ action.textLength + 1

/-- Edits are made wherever the caret may stand, except beyond the text of an action line. -/
theorem Settled.accepts_or_beyondText (hdoc : nav.reader = doc.reader) (h : nav.Settled p) :
    doc.Accepts p ∨ nav.BeyondText p := by
  obtain ⟨raw, hraw, haction, htext⟩ := h.within
  have haccepts : 1 ≤ p.column → p.column ≤ raw.length + 1 → doc.Accepts p := by
    intro hone hle
    rw [Document.accepts_iff, Document.isSome_offset?_iff]
    exact ⟨raw, hdoc ▸ hraw, hone, hle⟩
  cases hparse : ActionLine.parse? nav.frameColumns raw with
  | none => exact Or.inl (haccepts (htext hparse).1 (htext hparse).2)
  | some action =>
    have hbounds := (haction action hparse).1
    rcases Nat.lt_or_ge (raw.length + 1) p.column with hbeyond | hle
    · exact Or.inr ⟨raw, action, hraw, hparse, hbeyond, by omega⟩
    · exact Or.inl (haccepts hbounds.1 hle)

/-- Edits are refused beyond the text. -/
theorem BeyondText.offset?_eq_none (hdoc : nav.reader = doc.reader) (h : nav.BeyondText p) :
    doc.offset? p = none := by
  obtain ⟨raw, action, hraw, -, hbeyond, -⟩ := h
  rw [← Option.not_isSome_iff_eq_none, Document.isSome_offset?_iff]
  rintro ⟨other, hother, -, hle⟩
  cases (hdoc ▸ hraw).symm.trans hother
  omega

/-- A line that is longer when it is printed ends, for the caret, with the printed line. -/
theorem lastSlot_eq_of_shorter (h : action.Expressible) (hshort : raw.length < action.textLength) :
    lastSlot action raw = action.textLength + 1 := by
  have hreach : reach action raw = action.textLength + 1 := by
    rw [reach]
    omega
  rw [lastSlot_eq h]
  split
  · exact hreach
  · rename_i hfeather
    rw [h.textLength_eq, ActionLine.payload_eq_nil hfeather, ActionLine.lastEdge, ActionLine.edge,
      ActionLine.boundary, List.length_nil]
    omega

/-- The key for the end of the line leads beyond the text of a line that is longer when it is
printed. -/
theorem exists_lineEnd_beyondText (hreader : nav.reader.IsFaithful)
    (hraw : nav.reader.line? line = some raw)
    (hparse : ActionLine.parse? nav.frameColumns raw = some action)
    (hshort : raw.length < action.textLength) :
    ∃ caret q, caret.position.line = line ∧ (nav.move caret .lineEnd).1 = .ok q ∧
      nav.BeyondText q := by
  have haction := ActionLine.expressible_of_parse? hparse
  refine ⟨.placedAt (.of line 1), _, rfl, move_lineEnd_of_action hreader hraw hparse, raw, action,
    hraw, hparse, ?_⟩
  rw [Position.column_of, lastSlot_eq_of_shorter haction hshort]
  omega

/-- **Movements lead to where edits are made**, or beyond the text of an action line that is longer
when it is printed. From every such line one of them does. -/
theorem moves_accepted_or_beyondText (hdoc : nav.reader = doc.reader) :
    (∀ caret m p, (nav.move caret m).1 = .ok p → doc.Accepts p ∨ nav.BeyondText p) ∧
    ∀ line raw action, doc.reader.line? line = some raw →
      ActionLine.parse? nav.frameColumns raw = some action → raw.length < action.textLength →
      ∃ caret p, caret.position.line = line ∧ (nav.move caret .lineEnd).1 = .ok p ∧
        nav.BeyondText p ∧ doc.offset? p = none := by
  constructor
  · intro caret m p hmove
    exact (settled_of_move nav caret m p hmove).accepts_or_beyondText hdoc
  · intro line raw action hraw hparse hshort
    have hreader : nav.reader.IsFaithful := hdoc ▸ doc.isFaithful_reader
    obtain ⟨caret, p, hline, hmove, hbeyond⟩ :=
      exists_lineEnd_beyondText hreader (hdoc ▸ hraw) hparse hshort
    exact ⟨caret, p, hline, hmove, hbeyond, hbeyond.offset?_eq_none hdoc⟩

/-- On a line without its padding the key for the end of the line leads beyond the text, and a step
from there to the line below leads to where edits are made. -/
theorem accepts_below_unpadded_line :
    (Document.ofText "15,R\nword".toList).Accepts (.of 2 1) ∧
      ∃ caret p, caret.position.line = 1 ∧
        (move (ofDocument (Document.ofText "15,R\nword".toList) 20 4) caret .lineEnd).1 = .ok p ∧
        (Document.ofText "15,R\nword".toList).offset? p = none := by
  have hdoc : (ofDocument (Document.ofText "15,R\nword".toList) 20 4).reader =
      (Document.ofText "15,R\nword".toList).reader := rfl
  have hmoves := moves_accepted_or_beyondText hdoc
  have hright : (move (ofDocument (Document.ofText "15,R\nword".toList) 20 4)
      (.placedAt (.of 1 7)) .charRight).1 = .ok (.of 2 1) :=
    Outcome.toOption_eq_some_iff.mp (by decide +kernel)
  constructor
  · refine (hmoves.1 _ _ _ hright).resolve_right fun hbeyond => ?_
    cases (hbeyond.offset?_eq_none hdoc).symm.trans
      (show (Document.ofText "15,R\nword".toList).offset? (.of 2 1) = some 5 by decide +kernel)
  · obtain ⟨caret, p, hline, hmove, -, hnone⟩ := hmoves.2 1 "15,R".toList
      ((ActionLine.ofFrames 15 (.single .right)).withWidth 4) (by decide +kernel)
      (by decide +kernel) (by decide +kernel)
    exact ⟨caret, p, hline, hmove, hnone⟩

/-- After the frame count of a line without its padding, the key for the end of the line leads to
where nothing can be inserted. -/
theorem lineEnd_refused_on_unpadded_line :
    (Document.ofText "15,R".toList).reader.line? 1 = some "15,R".toList ∧
      (move (ofDocument (Document.ofText "15,R".toList) 20 4) (.placedAt (.of 1 5)) .lineEnd).1 =
        .ok (.of 1 7) ∧
      (Document.ofText "15,R".toList).offset? (.of 1 7) = none ∧
      ((Document.ofText "15,R".toList).insert (.of 1 7) ['x']).1 = .error (.noSuchSlot 1 7) := by
  refine ⟨by decide +kernel, Outcome.toOption_eq_some_iff.mp (by decide +kernel),
    by decide +kernel, rfl⟩

end Navigation

end FrameScript
