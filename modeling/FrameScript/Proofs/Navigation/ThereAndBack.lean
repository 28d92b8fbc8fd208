import FrameScript.Proofs.Navigation.PlainText
import FrameScript.Proofs.Text.StopWalk

/-!
# There and back in plain text

A step to the right and a step to the left take each other back, within a line and over its ends.
Within a line this is a matter of the searches alone: both look among the same stops. Over the ends
it is a matter of the mover: the step to the right leads from the last slot of a line to the first
of the line below, and the step to the left from there to the last slot again. So what is proved
here needs to know of a pair of movements only which stops it goes between, and characters and
words are two cases of it.

## Main definitions

* `PlainText.StepsAlong` — a pair of opposite movements, and the stops that it goes between

## Main results

* `PlainText.StepsAlong.right_left`, `PlainText.StepsAlong.left_right` — there and back, either way
* `PlainText.steps_there_and_back` — by characters and by words, in every document
-/

namespace FrameScript

namespace PlainText

variable {reader : LineReader} {p : Position} {raw : Text}

/-- Of two movements one leads to the next stop of a line and the other to the previous one. -/
structure StepsAlong (reader : LineReader) (right left : Movement) (stops : Text → Set Nat)
    (next? prev? : Text → Nat → Option Nat) : Prop where
  walks : ∀ text, Text.WalksAlong (stops text) text.endColumn (next? text) (prev? text)
  move_right : ∀ (p : Position) (raw : Text), reader.line? p.line = some raw →
    1 ≤ p.column ∧ p.column ≤ raw.endColumn →
      moveHorizontally reader p right = rightTo reader p (next? raw p.column)
  move_left : ∀ (p : Position) (raw : Text), reader.line? p.line = some raw →
    1 ≤ p.column ∧ p.column ≤ raw.endColumn →
      moveHorizontally reader p left = leftTo reader p (prev? raw p.column)

theorem stepsAlong_chars (reader : LineReader) :
    StepsAlong reader .charRight .charLeft (fun text => {stop | stop ∈ text.clusterStops})
      Text.nextClusterStop? Text.prevClusterStop? :=
  ⟨Text.walksAlong_clusterStops, fun _ _ => moveHorizontally_charRight,
    fun _ _ => moveHorizontally_charLeft⟩

theorem stepsAlong_words (reader : LineReader) :
    StepsAlong reader .wordRight .wordLeft (fun text => {stop | text.IsWordStop stop})
      Text.nextWordStop? Text.prevWordStop? :=
  ⟨Text.walksAlong_wordStops, fun _ _ hraw _ => moveHorizontally_wordRight hraw,
    fun _ _ hraw _ => moveHorizontally_wordLeft hraw⟩

namespace StepsAlong

variable {right left : Movement} {stops : Text → Set Nat} {next? prev? : Text → Nat → Option Nat}
  (h : StepsAlong reader right left stops next? prev?) (hreader : reader.IsFaithful)
  (hraw : reader.line? p.line = some raw) (hstop : p.column ∈ stops raw)

include h hreader hraw hstop

/-- **To the right and back.** From a stop that is not the end of the text the step to the right
leads on, and the step to the left leads back. -/
theorem right_left (hend : ¬(p.line = reader.lineCount ∧ p.column = raw.endColumn)) :
    ∃ q, moveHorizontally reader p right = .ok q ∧ p < q ∧
      moveHorizontally reader q left = .ok (.of p.line p.column) := by
  have hbounds := (h.walks raw).bounds p.column hstop
  rw [h.move_right p raw hraw hbounds]
  rcases Nat.lt_or_eq_of_le hbounds.2 with hlt | hlast
  · -- within the line
    obtain ⟨s, hnext, hright, hle, hback⟩ := (h.walks raw).prev_next hstop hlt
    refine ⟨.of p.line s, by rw [hnext, rightTo], Or.inr ⟨rfl, hright⟩, ?_⟩
    rw [h.move_left (.of p.line s) raw hraw ⟨Nat.le_trans hbounds.1 (Nat.le_of_lt hright), hle⟩,
      Position.column_of, hback, leftTo, Position.line_of]
  · -- over the end of the line
    have hline := (hreader p.line).mp ⟨raw, hraw⟩
    have hmore : p.line < reader.lineCount :=
      Nat.lt_of_le_of_ne hline.2 fun heq => hend ⟨heq, hlast⟩
    obtain ⟨below, hbelow⟩ := (hreader (p.line + 1)).mpr ⟨Nat.le_add_left .., hmore⟩
    have hnone := ((h.walks raw).next?_eq_none_iff p.column).mpr (Nat.le_of_eq hlast.symm)
    refine ⟨.of (p.line + 1) 1, ?_, Or.inl (Nat.lt_succ_self _), ?_⟩
    · rw [hnone, rightTo, if_neg (Nat.not_le.mpr hmore), readLine_eq_ok_iff.mpr hbelow]
      rfl
    · have hone := ((h.walks below).prev?_eq_none_iff 1).mpr (Nat.le_refl 1)
      rw [h.move_left (.of (p.line + 1) 1) below hbelow ⟨Nat.le_refl 1, Nat.le_add_left ..⟩,
        Position.column_of, hone, leftTo, Position.line_of,
        if_neg (Nat.not_le.mpr (Nat.lt_add_of_pos_left hline.1)), Nat.add_sub_cancel,
        readLine_eq_ok_iff.mpr hraw, hlast]
      rfl

/-- **To the left and back.** From a stop that is not the start of the text the step to the left
leads on, and the step to the right leads back. -/
theorem left_right (hstart : ¬(p.line = 1 ∧ p.column = 1)) :
    ∃ q, moveHorizontally reader p left = .ok q ∧ q < p ∧
      moveHorizontally reader q right = .ok (.of p.line p.column) := by
  have hbounds := (h.walks raw).bounds p.column hstop
  rw [h.move_left p raw hraw hbounds]
  rcases Nat.lt_or_eq_of_le hbounds.1 with hlt | hfirst
  · -- within the line
    obtain ⟨s, hprev, hone, hleft, hback⟩ := (h.walks raw).next_prev hstop hlt
    refine ⟨.of p.line s, by rw [hprev, leftTo], Or.inr ⟨rfl, hleft⟩, ?_⟩
    rw [h.move_right (.of p.line s) raw hraw ⟨hone, Nat.le_trans (Nat.le_of_lt hleft) hbounds.2⟩,
      Position.column_of, hback, rightTo, Position.line_of]
  · -- over the start of the line
    have hline := (hreader p.line).mp ⟨raw, hraw⟩
    have hmore : 1 < p.line := Nat.lt_of_le_of_ne hline.1 fun heq => hstart ⟨heq.symm, hfirst.symm⟩
    have habove : 1 ≤ p.line - 1 ∧ p.line - 1 ≤ reader.lineCount := by omega
    obtain ⟨above, habove⟩ := (hreader (p.line - 1)).mpr habove
    have hnone := ((h.walks raw).prev?_eq_none_iff p.column).mpr (Nat.le_of_eq hfirst.symm)
    refine ⟨.of (p.line - 1) above.endColumn, ?_, Or.inl (Nat.sub_lt hline.1 Nat.one_pos), ?_⟩
    · rw [hnone, leftTo, if_neg (Nat.not_le.mpr hmore), readLine_eq_ok_iff.mpr habove]
      rfl
    · have hlast := ((h.walks above).next?_eq_none_iff above.endColumn).mpr (Nat.le_refl _)
      rw [h.move_right (.of (p.line - 1) above.endColumn) above habove
          ⟨Nat.le_add_left .., Nat.le_refl _⟩,
        Position.column_of, hlast, rightTo, Position.line_of, if_neg (by omega),
        Nat.sub_add_cancel hline.1, readLine_eq_ok_iff.mpr hraw, ← hfirst]
      rfl

end StepsAlong

/-- **There and back.** From a boundary of clusters a step by one character is taken back by the
opposite step, and from a stop between words a step by one word is, whatever cells are remembered
on the way. Only at the end of the text there is nothing further right, and nothing further left at
its start. -/
theorem steps_there_and_back (doc : Document) (pageLines : Nat) {p : Position} {raw : Text}
    (hraw : doc.reader.line? p.line = some raw) {right left : Movement}
    (hstop : right = .charRight ∧ left = .charLeft ∧ p.column ∈ raw.clusterStops ∨
      right = .wordRight ∧ left = .wordLeft ∧ raw.IsWordStop p.column)
    (before between : Option Nat) :
    (¬(p.line = doc.lineCount ∧ p.column = raw.length + 1) →
      ∃ q, (mover pageLines).move doc.reader p right before = (.ok q, none) ∧ p < q ∧
        (mover pageLines).move doc.reader q left between = (.ok (.of p.line p.column), none)) ∧
    (¬(p.line = 1 ∧ p.column = 1) →
      ∃ q, (mover pageLines).move doc.reader p left before = (.ok q, none) ∧ q < p ∧
        (mover pageLines).move doc.reader q right between = (.ok (.of p.line p.column), none)) := by
  have hshown : ∀ q m remembered, m.isVertical = false →
      (mover pageLines).move doc.reader q m remembered =
        (moveHorizontally doc.reader q m, none) := by
    intro q m remembered hm
    simp only [mover, hm, Bool.false_eq_true, if_false]
  have hreader := doc.isFaithful_reader
  obtain ⟨hright, hleft, hthere⟩ : right.isVertical = false ∧ left.isVertical = false ∧
      (¬(p.line = doc.lineCount ∧ p.column = raw.length + 1) →
        ∃ q, moveHorizontally doc.reader p right = .ok q ∧ p < q ∧
          moveHorizontally doc.reader q left = .ok (.of p.line p.column)) ∧
      (¬(p.line = 1 ∧ p.column = 1) →
        ∃ q, moveHorizontally doc.reader p left = .ok q ∧ q < p ∧
          moveHorizontally doc.reader q right = .ok (.of p.line p.column)) := by
    rcases hstop with ⟨rfl, rfl, hstop⟩ | ⟨rfl, rfl, hstop⟩
    · have hsteps := stepsAlong_chars doc.reader
      exact ⟨rfl, rfl, hsteps.right_left hreader hraw hstop, hsteps.left_right hreader hraw hstop⟩
    · have hsteps := stepsAlong_words doc.reader
      exact ⟨rfl, rfl, hsteps.right_left hreader hraw hstop, hsteps.left_right hreader hraw hstop⟩
  simp only [hshown _ _ _ hright, hshown _ _ _ hleft, Prod.mk.injEq, and_true]
  exact hthere

/-- A character with a combining mark is stepped over and back as one, and from an empty line a
step by word leads to the end of the line above and back. -/
theorem steps_over_mark_and_break :
    ((mover 20).move (Document.ofText "e\u0301x\n\n.b".toList).reader (.of 1 1) .charRight none =
        (.ok (.of 1 3), none) ∧
      (mover 20).move (Document.ofText "e\u0301x\n\n.b".toList).reader (.of 1 3) .charLeft none =
        (.ok (.of 1 1), none)) ∧
    (mover 20).move (Document.ofText "e\u0301x\n\n.b".toList).reader (.of 2 1) .wordLeft (some 7) =
        (.ok (.of 1 4), none) ∧
      (mover 20).move (Document.ofText "e\u0301x\n\n.b".toList).reader (.of 1 4) .wordRight none =
        (.ok (.of 2 1), none) := by
  have hfirst : (Document.ofText "e\u0301x\n\n.b".toList).reader.line? 1 =
      some "e\u0301x".toList := by
    decide +kernel
  have hsecond : (Document.ofText "e\u0301x\n\n.b".toList).reader.line? 2 = some [] := by
    decide +kernel
  have hcluster : (mover 20).move (Document.ofText "e\u0301x\n\n.b".toList).reader (.of 1 1)
      .charRight none = (.ok (.of 1 3), none) := by
    decide +kernel
  have hword : (mover 20).move (Document.ofText "e\u0301x\n\n.b".toList).reader (.of 2 1)
      .wordLeft (some 7) = (.ok (.of 1 4), none) := by
    decide +kernel
  obtain ⟨q, hright, -, hback⟩ := (steps_there_and_back _ 20 (p := .of 1 1) hfirst
    (Or.inl ⟨rfl, rfl, Text.one_mem_clusterStops _⟩) none none).1 (by decide)
  obtain ⟨q', hleft, -, hback'⟩ := (steps_there_and_back _ 20 (p := .of 2 1) hsecond
    (Or.inr ⟨rfl, rfl, Or.inl rfl⟩) (some 7) none).2 (by decide)
  obtain rfl : q = .of 1 3 :=
    Except.ok.inj (congrArg Prod.fst (hright.symm.trans hcluster))
  obtain rfl : q' = .of 1 4 := Except.ok.inj (congrArg Prod.fst (hleft.symm.trans hword))
  exact ⟨⟨hright, hback⟩, hleft, hback'⟩

end PlainText

end FrameScript
