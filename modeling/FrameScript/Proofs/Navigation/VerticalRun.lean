import FrameScript.Proofs.Navigation.TextOnly

/-!
# Runs of vertical movements in plain text

A run of vertical movements forgets the way that it takes. The first movement remembers the cell
that the caret stands in; from then on the line is a matter of counting, and the column a matter of
the line and that cell. A short line on the way, or one of wide characters, moves the caret aside
only as long as it is there.

The one exception is a step by a line over an end of the text. It leads nowhere and leaves the caret
as it is, in its column and with its hints, where every other movement asks anew for the column of
the cell, a page at an end of the text included. So a caret that has only been held back is still
where it was. A caret that has been elsewhere is in the column of the cell already, so that being
held back later on makes no difference.

## Main definitions

* `PlainText.lineSteps`, `PlainText.clampedLine`, `PlainText.lineAfter` — counting lines
* `PlainText.HeldBack`, `PlainText.HeldThroughout` — steps over the ends of the text

## Main results

* `PlainText.targetLine?_eq` — the line that a movement leads to
* `PlainText.move_eq_of_vertical` — one movement
* `PlainText.run_of_vertical` — a run
* `PlainText.vertical_run_forgets_its_way` — a run from a caret that remembers nothing
-/

namespace FrameScript

namespace PlainText

variable {reader : LineReader} {p : Position} {m : Movement} {raw : Text}
  {lineCount pageLines line x : Nat} {remembered : Option Nat}

/-! ### Counting lines -/

/-- How many lines a movement goes down, on pages of so many lines. -/
def lineSteps (pageLines : Nat) : Movement → Int
  | .lineUp => -1
  | .lineDown => 1
  | .pageUp => -pageLines
  | .pageDown => pageLines
  | _ => 0

/-- The line so many lines further down, but not beyond the first or the last line. -/
def clampedLine (lineCount line : Nat) (steps : Int) : Nat :=
  (max 1 (min (line + steps) lineCount)).toNat

/-- The line after several movements. -/
def lineAfter (lineCount pageLines : Nat) (line : Nat) (ms : List Movement) : Nat :=
  ms.foldl (fun line m => clampedLine lineCount line (lineSteps pageLines m)) line

/-- The movement is a step by a line over an end of the text. -/
def HeldBack (lineCount line : Nat) (m : Movement) : Prop :=
  m = .lineUp ∧ line = 1 ∨ m = .lineDown ∧ line = lineCount

instance (lineCount line : Nat) (m : Movement) : Decidable (HeldBack lineCount line m) :=
  inferInstanceAs (Decidable (m = .lineUp ∧ line = 1 ∨ m = .lineDown ∧ line = lineCount))

/-- Each of several movements is such a step, at the line to which those before it lead. -/
def HeldThroughout (lineCount pageLines : Nat) : Nat → List Movement → Prop
  | _, [] => True
  | line, m :: rest => HeldBack lineCount line m ∧
    HeldThroughout lineCount pageLines (clampedLine lineCount line (lineSteps pageLines m)) rest

instance decidableHeldThroughout (lineCount pageLines : Nat) :
    (line : Nat) → (ms : List Movement) → Decidable (HeldThroughout lineCount pageLines line ms)
  | _, [] => isTrue trivial
  | line, m :: rest =>
    have := decidableHeldThroughout lineCount pageLines
      (clampedLine lineCount line (lineSteps pageLines m)) rest
    inferInstanceAs (Decidable (HeldBack lineCount line m ∧ HeldThroughout lineCount pageLines
      (clampedLine lineCount line (lineSteps pageLines m)) rest))

theorem clampedLine_of_heldBack (hline : 1 ≤ line ∧ line ≤ lineCount)
    (h : HeldBack lineCount line m) :
    clampedLine lineCount line (lineSteps pageLines m) = line := by
  rcases h with ⟨rfl, rfl⟩ | ⟨rfl, rfl⟩
  all_goals
    simp only [clampedLine, lineSteps]
    omega

theorem clampedLine_within (hline : 1 ≤ line ∧ line ≤ lineCount) (steps : Int) :
    1 ≤ clampedLine lineCount line steps ∧ clampedLine lineCount line steps ≤ lineCount := by
  rw [clampedLine]
  omega

/-- **A vertical movement** leads to the line that counting gives, unless it is held back. -/
theorem targetLine?_eq (hline : 1 ≤ line ∧ line ≤ lineCount) (hm : m.isVertical = true) :
    targetLine? lineCount pageLines line m =
      if HeldBack lineCount line m then none
      else some (clampedLine lineCount line (lineSteps pageLines m)) := by
  cases m
  case lineUp | lineDown | pageUp | pageDown =>
    simp only [targetLine?, HeldBack, clampedLine, lineSteps, reduceCtorEq, false_and, true_and,
      or_false, false_or, if_false]
    grind
  all_goals cases hm

/-! ### One movement -/

/-- The position is where the cell leads to on its line, with the hints of a line that does not
wrap. -/
def InCell (reader : LineReader) (x : Nat) (q : Position) : Prop :=
  ∃ text, reader.line? q.line = some text ∧ q = .of q.line (text.columnAtCell x)

/-- **One movement** from a caret that remembers the cell, or remembers none and stands in it. -/
theorem move_eq_of_vertical (pageLines : Nat) (hreader : reader.IsFaithful)
    (hraw : reader.line? p.line = some raw) (hm : m.isVertical = true)
    (hx : remembered.getD (raw.cellsBefore p.column) = x) :
    ∃ q, (mover pageLines).move reader p m remembered = (.ok q, some x) ∧
      q.line = clampedLine reader.lineCount p.line (lineSteps (max pageLines 1) m) ∧
      (HeldBack reader.lineCount p.line m → q = p) ∧
      (¬HeldBack reader.lineCount p.line m → InCell reader x q) := by
  have hline := (hreader p.line).mp ⟨raw, hraw⟩
  simp only [mover, hm, if_true, moveVertically, readLine_eq_ok_iff.mpr hraw, hx,
    targetLine?_eq hline hm]
  by_cases hheld : HeldBack reader.lineCount p.line m
  · rw [if_pos hheld]
    exact ⟨p, rfl, (clampedLine_of_heldBack hline hheld).symm, fun _ => rfl,
      fun h => absurd hheld h⟩
  · obtain ⟨text, htext⟩ :=
      (hreader _).mpr (clampedLine_within hline (lineSteps (max pageLines 1) m))
    rw [if_neg hheld]
    dsimp only
    rw [readLine_eq_ok_iff.mpr htext]
    exact ⟨_, rfl, rfl, fun h => absurd h hheld, fun _ => ⟨text, htext, rfl⟩⟩

/-! ### Runs -/

/-- A run from one position has led to another: it is where it was if it has been held back all the
way, and otherwise it is in the cell. -/
structure LedTo (reader : LineReader) (pageLines x : Nat) (p : Position) (ms : List Movement)
    (q : Position) : Prop where
  line : q.line = lineAfter reader.lineCount pageLines p.line ms
  held : HeldThroughout reader.lineCount pageLines p.line ms → q = p
  inCell : ¬HeldThroughout reader.lineCount pageLines p.line ms → InCell reader x q

theorem LedTo.nil (p : Position) : LedTo reader pageLines x p [] p where
  line := rfl
  held _ := rfl
  inCell h := absurd trivial h

/-- A movement in front of a run. What comes to be in the cell by it is in the cell still if all the
others are held back. -/
theorem LedTo.cons {first q : Position} {rest : List Movement}
    (hline : first.line = clampedLine reader.lineCount p.line (lineSteps pageLines m))
    (hheld : HeldBack reader.lineCount p.line m → first = p)
    (hcell : ¬HeldBack reader.lineCount p.line m → InCell reader x first)
    (h : LedTo reader pageLines x first rest q) : LedTo reader pageLines x p (m :: rest) q := by
  obtain ⟨hq, hstay, hmoved⟩ := h
  rw [hline] at hq hstay hmoved
  refine ⟨hq, fun ⟨hm, hrest⟩ => (hstay hrest).trans (hheld hm), fun hnot => ?_⟩
  by_cases hrest : HeldThroughout reader.lineCount pageLines
      (clampedLine reader.lineCount p.line (lineSteps pageLines m)) rest
  · rw [hstay hrest]
    exact hcell fun hm => hnot ⟨hm, hrest⟩
  · exact hmoved hrest

/-- **A run** shows the cell at every step. -/
theorem run_of_vertical (pageLines : Nat) (hreader : reader.IsFaithful)
    (hraw : reader.line? p.line = some raw) {ms : List Movement}
    (hms : ∀ m ∈ ms, m.isVertical = true)
    (hx : remembered.getD (raw.cellsBefore p.column) = x) :
    (∀ shown ∈ (mover pageLines).run reader p remembered ms, ∃ q, shown = (.ok q, some x)) ∧
      ∃ q, ((mover pageLines).run reader p remembered ms).getLast?.getD (.ok p, some x) =
          (.ok q, some x) ∧
        LedTo reader (max pageLines 1) x p ms q := by
  induction ms generalizing p remembered raw with
  | nil => exact ⟨fun shown h => absurd h List.not_mem_nil, p, rfl, .nil p⟩
  | cons m rest ih =>
    obtain ⟨first, hmove, hline, hheld, hcell⟩ :=
      move_eq_of_vertical pageLines hreader hraw (hms m List.mem_cons_self) hx
    have hwithin := clampedLine_within ((hreader p.line).mp ⟨raw, hraw⟩)
      (lineSteps (max pageLines 1) m)
    obtain ⟨text, htext⟩ := (hreader first.line).mpr (hline ▸ hwithin)
    obtain ⟨hshown, q, hlast, hled⟩ := ih htext
      (fun m' hm' => hms m' (List.mem_cons_of_mem m hm'))
      (show (some x).getD (text.cellsBefore first.column) = x from rfl)
    have hrun : (mover pageLines).run reader p remembered (m :: rest) =
        (.ok first, some x) :: (mover pageLines).run reader first (some x) rest := by
      simp only [TextMover.run, hmove]
      rfl
    rw [hrun]
    refine ⟨fun shown h => ?_, q, ?_, hled.cons hline hheld hcell⟩
    · rcases List.mem_cons.mp h with rfl | h
      · exact ⟨first, rfl⟩
      · exact hshown shown h
    · rw [List.getLast?_cons, Option.getD_some]
      exact hlast

/-- **Vertical movement does not depend on the way.** From any position on a line of the document
and remembering nothing, every movement of a run up and down by lines and pages succeeds and
remembers the cell before the first position. The run ends on the line that counting gives. It ends
where it began, with the same hints, if each of its movements was a step by a line over an end of
the text, and otherwise where the cell leads to on the last line, whichever lines lie between. -/
theorem vertical_run_forgets_its_way (doc : Document) (pageLines : Nat) {p : Position} {raw : Text}
    (hraw : doc.reader.line? p.line = some raw) {ms : List Movement} (hne : ms ≠ [])
    (hms : ∀ m ∈ ms, m.isVertical = true) :
    (∀ shown ∈ (mover pageLines).run doc.reader p none ms,
      ∃ q, shown = (.ok q, some (raw.cellsBefore p.column))) ∧
    ∃ q text, ((mover pageLines).run doc.reader p none ms).getLast? =
        some (.ok q, some (raw.cellsBefore p.column)) ∧
      q.line = lineAfter doc.lineCount (max pageLines 1) p.line ms ∧
      doc.reader.line? q.line = some text ∧
      (HeldThroughout doc.lineCount (max pageLines 1) p.line ms → q = p) ∧
      (¬HeldThroughout doc.lineCount (max pageLines 1) p.line ms →
        q = .of q.line (text.columnAtCell (raw.cellsBefore p.column))) := by
  have hx : (none : Option Nat).getD (raw.cellsBefore p.column) = raw.cellsBefore p.column := rfl
  obtain ⟨hshown, q, hlast, hline, hheld, hcell⟩ :=
    run_of_vertical pageLines doc.isFaithful_reader hraw hms hx
  obtain ⟨shown, hsome⟩ : ∃ shown,
      ((mover pageLines).run doc.reader p none ms).getLast? = some shown := by
    rw [← Option.ne_none_iff_exists', ne_eq, List.getLast?_eq_none_iff]
    cases ms with
    | nil => exact absurd rfl hne
    | cons m rest => exact List.cons_ne_nil _ _
  rw [hsome, Option.getD_some] at hlast
  rw [hsome, hlast]
  refine ⟨hshown, q, ?_⟩
  by_cases hthrough : HeldThroughout doc.lineCount (max pageLines 1) p.line ms
  · obtain rfl := hheld hthrough
    exact ⟨raw, rfl, hline, hraw, fun _ => rfl, fun h => absurd hthrough h⟩
  · obtain ⟨text, htext, hq⟩ := hcell hthrough
    exact ⟨text, rfl, hline, htext, fun h => absurd h hthrough, fun _ => hq⟩

/-- From between two wide characters, over an empty line and a page down, the caret comes to the
column of its cell. Held back at the start of the text, it stays with its hints. -/
theorem vertical_run_over_empty_line :
    (Document.ofText "語語b\n\nabcdef".toList).reader.line? 1 = some "語語b".toList ∧
    ((mover 1).run (Document.ofText "語語b\n\nabcdef".toList).reader ⟨1, 2, 9, true⟩ none
        [.lineUp, .lineDown, .pageDown]).getLast? = some (.ok (.of 3 3), some 2) ∧
    ((mover 1).run (Document.ofText "語語b\n\nabcdef".toList).reader ⟨1, 2, 9, true⟩ none
        [.lineUp, .lineUp]).getLast? = some (.ok ⟨1, 2, 9, true⟩, some 2) := by
  have hraw : (Document.ofText "語語b\n\nabcdef".toList).reader.line? 1 = some "語語b".toList := by
    decide +kernel
  have hend : (Document.ofText "語語b\n\nabcdef".toList).reader.line? 3 = some "abcdef".toList := by
    decide +kernel
  have hcell : Text.cellsBefore "語語b".toList 2 = 2 := by decide +kernel
  have hcolumn : Text.columnAtCell "abcdef".toList 2 = 3 := by decide +kernel
  refine ⟨hraw, ?_, ?_⟩
  · obtain ⟨q, text, hlast, hline, htext, -, hmoved⟩ := (vertical_run_forgets_its_way _ 1
      (p := ⟨1, 2, 9, true⟩) hraw (List.cons_ne_nil .lineUp [.lineDown, .pageDown])
      (by decide)).2
    have hthree : q.line = 3 := hline.trans (by decide +kernel)
    rw [hthree] at htext hmoved
    cases hend.symm.trans htext
    rw [hlast, hmoved (by decide +kernel), hcell, hcolumn]
  · obtain ⟨q, text, hlast, -, -, hheld, -⟩ := (vertical_run_forgets_its_way _ 1
      (p := ⟨1, 2, 9, true⟩) hraw (List.cons_ne_nil .lineUp [.lineUp]) (by decide)).2
    rw [hlast, hcell, hheld (by decide +kernel)]

end PlainText

end FrameScript
