import FrameScript.Proofs.Document.Reader
import FrameScript.Proofs.Navigation.SlotOrder

/-!
# Walking through a document

Steps by one character walk through the stops of a document, which are the slots of its action
lines and the columns of its other lines: from an action line a step leads to the next stop of the
line or, at its end, to the nearest stop of the neighbouring line. The two directions are each
other's inverse wherever both ends of a step lie on action lines. For that the relation of a stop
to its neighbours is enough, and the rules of movement are not opened again.

## Main definitions

* `Navigation.stops` — the columns where the caret may rest on a line
* `Navigation.StepsRight`, `Navigation.StepsLeft` — the neighbours of a stop in the document
* `Navigation.RestsOn` — the caret rests on a slot of an action line

## Main results

* `Navigation.StepsRight.symm`, `Navigation.StepsLeft.symm` — a step that moves is undone
* `Navigation.move_of_mem_slots` — movements to the ends of a line, from anywhere on it
* `Navigation.RestsOn.move_charRight`, `Navigation.RestsOn.move_charLeft` — steps lead to the
  neighbours
* `Navigation.steps_walk_stops` — all of this, for every document
-/

namespace FrameScript

namespace Navigation

variable {nav : Navigation} {line column line' column' : Nat} {raw : Text} {action : ActionLine}

/-! ### Stops of a document -/

/-- The columns where the caret may rest on a line: the slots of an action line, and every column
of another line. -/
def stops (nav : Navigation) (line : Nat) : Set Nat :=
  {column | ∃ raw, nav.reader.line? line = some raw ∧
    match ActionLine.parse? nav.frameColumns raw with
    | some action => column ∈ slots action raw
    | none => 1 ≤ column ∧ column ≤ raw.length + 1}

theorem stops_of_action (hraw : nav.reader.line? line = some raw)
    (haction : ActionLine.parse? nav.frameColumns raw = some action) :
    nav.stops line = slots action raw := by
  simp only [stops, hraw, Option.some.injEq, exists_eq_left', haction, Set.ofPred_mem_eq]

theorem stops_of_text (hraw : nav.reader.line? line = some raw)
    (htext : ActionLine.parse? nav.frameColumns raw = none) :
    nav.stops line = {column | 1 ≤ column ∧ column ≤ raw.length + 1} := by
  simp only [stops, hraw, Option.some.injEq, exists_eq_left', htext]

/-- What lies right of a stop: the next stop of its line; if there is none, the first of the line
below; and on the last line the stop itself. -/
inductive StepsRight (nav : Navigation) (line column : Nat) : Nat → Nat → Prop
  | within {next : Nat} (h : IsLeast {c | c ∈ nav.stops line ∧ column < c} next) :
    StepsRight nav line column line next
  | wrap {first : Nat} (hlast : IsGreatest (nav.stops line) column)
    (hline : line < nav.reader.lineCount) (h : IsLeast (nav.stops (line + 1)) first) :
    StepsRight nav line column (line + 1) first
  | stay (hlast : IsGreatest (nav.stops line) column) (hline : nav.reader.lineCount ≤ line) :
    StepsRight nav line column line column

/-- What lies left of a stop: the stop before it on its line; if there is none, the last of the
line above; and on the first line the stop itself. -/
inductive StepsLeft (nav : Navigation) (line column : Nat) : Nat → Nat → Prop
  | within {next : Nat} (h : IsGreatest {c | c ∈ nav.stops line ∧ c < column} next) :
    StepsLeft nav line column line next
  | wrap {last : Nat} (hfirst : IsLeast (nav.stops line) column) (hline : 1 < line)
    (h : IsGreatest (nav.stops (line - 1)) last) : StepsLeft nav line column (line - 1) last
  | stay (hfirst : IsLeast (nav.stops line) column) (hline : line ≤ 1) :
    StepsLeft nav line column line column

/-! ### Neighbours are unique and mutual -/

/-- At the last stop there is no further one. -/
theorem not_lt_of_isGreatest {next : Nat} (hlast : IsGreatest (nav.stops line) column)
    (h : next ∈ {c | c ∈ nav.stops line ∧ column < c}) : False :=
  absurd (hlast.2 h.1) (Nat.not_le.mpr h.2)

theorem not_lt_of_isLeast {next : Nat} (hfirst : IsLeast (nav.stops line) column)
    (h : next ∈ {c | c ∈ nav.stops line ∧ c < column}) : False :=
  absurd (hfirst.2 h.1) (Nat.not_le.mpr h.2)

theorem StepsRight.unique {line'' column'' : Nat} (h : nav.StepsRight line column line' column')
    (h' : nav.StepsRight line column line'' column'') : line' = line'' ∧ column' = column'' := by
  cases h with
  | within h =>
    cases h' with
    | within h' => exact ⟨rfl, h.unique h'⟩
    | wrap hlast => exact (not_lt_of_isGreatest hlast h.1).elim
    | stay hlast => exact (not_lt_of_isGreatest hlast h.1).elim
  | wrap hlast hline h =>
    cases h' with
    | within h' => exact (not_lt_of_isGreatest hlast h'.1).elim
    | wrap _ _ h' => exact ⟨rfl, h.unique h'⟩
    | stay _ hline' => omega
  | stay hlast hline =>
    cases h' with
    | within h' => exact (not_lt_of_isGreatest hlast h'.1).elim
    | wrap _ hline' => omega
    | stay => exact ⟨rfl, rfl⟩

theorem StepsLeft.unique {line'' column'' : Nat} (h : nav.StepsLeft line column line' column')
    (h' : nav.StepsLeft line column line'' column'') : line' = line'' ∧ column' = column'' := by
  cases h with
  | within h =>
    cases h' with
    | within h' => exact ⟨rfl, h.unique h'⟩
    | wrap hfirst => exact (not_lt_of_isLeast hfirst h.1).elim
    | stay hfirst => exact (not_lt_of_isLeast hfirst h.1).elim
  | wrap hfirst hline h =>
    cases h' with
    | within h' => exact (not_lt_of_isLeast hfirst h'.1).elim
    | wrap _ _ h' => exact ⟨rfl, h.unique h'⟩
    | stay _ hline' => omega
  | stay hfirst hline =>
    cases h' with
    | within h' => exact (not_lt_of_isLeast hfirst h'.1).elim
    | wrap _ hline' => omega
    | stay => exact ⟨rfl, rfl⟩

theorem StepsRight.mem_stops (h : nav.StepsRight line column line' column') :
    column' ∈ nav.stops line' := by
  cases h with
  | within h => exact h.1.1
  | wrap _ _ h => exact h.1
  | stay hlast => exact hlast.1

theorem StepsLeft.mem_stops (h : nav.StepsLeft line column line' column') :
    column' ∈ nav.stops line' := by
  cases h with
  | within h => exact h.1.1
  | wrap _ _ h => exact h.1
  | stay hfirst => exact hfirst.1

/-- **A step to the right is undone** by the step to the left, unless it stayed. -/
theorem StepsRight.symm (h : nav.StepsRight line column line' column') (hline : 1 ≤ line)
    (hcolumn : column ∈ nav.stops line) (hmoved : ¬ (line' = line ∧ column' = column)) :
    nav.StepsLeft line' column' line column := by
  cases h with
  | within h =>
    refine .within ⟨⟨hcolumn, h.1.2⟩, ?_⟩
    intro c hc
    rcases Nat.lt_or_ge column c with hlt | hle
    · exact absurd (h.2 ⟨hc.1, hlt⟩) (Nat.not_le.mpr hc.2)
    · exact hle
  | wrap hlast _ h => exact .wrap h (Nat.lt_add_of_pos_left hline) hlast
  | stay => exact absurd ⟨rfl, rfl⟩ hmoved

/-- **A step to the left is undone** by the step to the right, unless it stayed. -/
theorem StepsLeft.symm (h : nav.StepsLeft line column line' column')
    (hline : line ≤ nav.reader.lineCount) (hcolumn : column ∈ nav.stops line)
    (hmoved : ¬ (line' = line ∧ column' = column)) :
    nav.StepsRight line' column' line column := by
  cases h with
  | within h =>
    refine .within ⟨⟨hcolumn, h.1.2⟩, ?_⟩
    intro c hc
    rcases Nat.lt_or_ge c column with hlt | hle
    · exact absurd (h.2 ⟨hc.1, hlt⟩) (Nat.not_le.mpr hc.2)
    · exact hle
  | wrap hfirst hone h =>
    have hback : line - 1 + 1 = line := Nat.sub_add_cancel (Nat.le_of_lt hone)
    rw [← hback] at hfirst hline
    have hstep := StepsRight.wrap h hline hfirst
    rwa [hback] at hstep
  | stay => exact absurd ⟨rfl, rfl⟩ hmoved

/-! ### Landing at stops -/

theorem landingLine_of_faithful (hreader : nav.reader.IsFaithful)
    (hraw : nav.reader.line? line = some raw) : nav.landingLine line = line := by
  have hline := (hreader line).mp ⟨raw, hraw⟩
  rw [landingLine]
  omega

/-- Where there are lines every target is landed on, and its line says on which of them. -/
theorem exists_land (hreader : nav.reader.IsFaithful) (hcount : 1 ≤ nav.reader.lineCount)
    (target : Position) (byRule : Bool) :
    ∃ p, nav.land target byRule = .ok p ∧ p.line = nav.landingLine target.line := by
  have hline : 1 ≤ nav.landingLine target.line ∧
      nav.landingLine target.line ≤ nav.reader.lineCount := by
    rw [landingLine]
    omega
  obtain ⟨raw, hraw⟩ := (hreader _).mpr hline
  cases hparse : ActionLine.parse? nav.frameColumns raw with
  | some action => exact ⟨_, land_of_action hraw hparse, rfl⟩
  | none =>
    refine ⟨_, land_of_text hraw hparse, ?_⟩
    split
    · rfl
    · -- nothing had to be moved
      rename_i hkept
      exact (Classical.not_not.mp fun hmoved => hkept (Or.inr (Or.inl hmoved))).symm

/-- A stop is landed on. -/
theorem land_of_mem_stops (hreader : nav.reader.IsFaithful) (hcolumn : column ∈ nav.stops line)
    (byRule : Bool) : nav.land (.of line column) byRule = .ok (.of line column) := by
  obtain ⟨raw, hraw, -⟩ := id hcolumn
  have hline := landingLine_of_faithful hreader hraw
  have hland : nav.reader.line? (nav.landingLine line) = some raw := by rwa [hline]
  cases hparse : ActionLine.parse? nav.frameColumns raw with
  | some action =>
    rw [stops_of_action hraw hparse] at hcolumn
    rw [land_of_action hland hparse, Position.line_of, Position.column_of, hline,
      landingSlot_of_mem (ActionLine.expressible_of_parse? hparse) hcolumn]
  | none =>
    rw [stops_of_text hraw hparse] at hcolumn
    rw [land_of_text hland hparse, Position.line_of, Position.column_of, hline,
      Text.moveInto_of_mem hcolumn.1 hcolumn.2, ite_self]

/-- Whoever is sent to the first column of a line lands on its first stop. -/
theorem exists_land_first (hreader : nav.reader.IsFaithful)
    (hline : 1 ≤ line ∧ line ≤ nav.reader.lineCount) (byRule : Bool) :
    ∃ first, nav.land (.of line 1) byRule = .ok (.of line first) ∧
      IsLeast (nav.stops line) first := by
  obtain ⟨raw, hraw⟩ := (hreader line).mpr hline
  have hline := landingLine_of_faithful hreader hraw
  have hland : nav.reader.line? (nav.landingLine line) = some raw := by rwa [hline]
  cases hparse : ActionLine.parse? nav.frameColumns raw with
  | some action =>
    have haction := ActionLine.expressible_of_parse? hparse
    refine ⟨action.firstDigit, ?_, ?_⟩
    · rw [land_of_action hland hparse, Position.line_of, Position.column_of, hline,
        landingSlot_of_le_firstDigit haction raw (ActionLine.one_le_firstDigit action)]
    · rw [stops_of_action hraw hparse]
      exact isLeast_firstDigit haction raw
  | none =>
    have hfirst : IsLeast (nav.stops line) 1 := by
      rw [stops_of_text hraw hparse]
      exact ⟨⟨Nat.le_refl 1, Nat.le_add_left ..⟩, fun c hc => hc.1⟩
    exact ⟨1, land_of_mem_stops hreader hfirst.1 byRule, hfirst⟩

theorem exists_lastSlotOf (hreader : nav.reader.IsFaithful)
    (hline : 1 ≤ line ∧ line ≤ nav.reader.lineCount) :
    ∃ last, nav.lastSlotOf line = .ok last ∧ IsGreatest (nav.stops line) last := by
  obtain ⟨raw, hraw⟩ := (hreader line).mpr hline
  simp only [lastSlotOf, Outcome.map_eq_ok_iff, PlainText.readLine_eq_ok_iff, hraw,
    Option.some.injEq, exists_eq_left']
  cases hparse : ActionLine.parse? nav.frameColumns raw with
  | some action =>
    rw [stops_of_action hraw hparse]
    exact isGreatest_lastSlot (ActionLine.expressible_of_parse? hparse) raw
  | none =>
    rw [stops_of_text hraw hparse]
    exact ⟨⟨Nat.le_add_left .., Nat.le_refl _⟩, fun c hc => hc.2⟩

/-! ### Where the line ends -/

theorem decide_of_isRightward (nav : Navigation) (action : ActionLine) (raw : Text) (p : Position)
    {m : Movement} (hm : m.isRightward = true) :
    nav.decide action raw p m =
      if lastSlot action raw ≤ p.column ∧ p.line < nav.reader.lineCount then
        .ok (.wrapTo (.of (p.line + 1) 1))
      else .ok (decideWithin action raw p m) := by
  have hleft : m.isLeftward = false := Movement.isLeftward_of_isRightward hm
  simp only [decide, hleft, hm, Bool.false_eq_true, false_and, true_and, if_false]

theorem decide_of_isLeftward (nav : Navigation) (action : ActionLine) (raw : Text) (p : Position)
    {m : Movement} (hm : m.isLeftward = true) :
    nav.decide action raw p m =
      if p.column ≤ action.firstDigit ∧ 1 < p.line then
        (nav.lastSlotOf (p.line - 1)).map fun column => .wrapTo (.of (p.line - 1) column)
      else .ok (decideWithin action raw p m) := by
  have hright : m.isRightward = false := Movement.isRightward_of_isLeftward hm
  simp only [decide, hright, hm, Bool.false_eq_true, false_and, true_and, if_false]

/-! ### Steps from a slot -/

/-- From anywhere on an action line, a movement to neither side that leads to one of its slots gets
there. -/
theorem move_of_mem_slots (hreader : nav.reader.IsFaithful) {caret : Caret} {m : Movement}
    (hraw : nav.reader.line? caret.position.line = some raw)
    (hparse : ActionLine.parse? nav.frameColumns raw = some action)
    (hleft : m.isLeftward = false) (hright : m.isRightward = false)
    (hrule : ∀ p, decideWithin action raw p m = .toColumn column)
    (hcolumn : column ∈ slots action raw) :
    (nav.move caret m).1 = .ok (.of caret.position.line column) := by
  rw [← stops_of_action hraw hparse] at hcolumn
  refine move_eq_ok_iff.mpr ⟨⟨.of caret.position.line column, true, caret.remembered⟩, ?_,
    land_of_mem_stops hreader hcolumn true⟩
  rw [destination_of_action hraw hparse, decide_of_not_sideways hleft hright, hrule]
  rfl

/-- The end of an action line is its last slot. -/
theorem move_lineEnd_of_action (hreader : nav.reader.IsFaithful) {caret : Caret}
    (hraw : nav.reader.line? caret.position.line = some raw)
    (hparse : ActionLine.parse? nav.frameColumns raw = some action) :
    (nav.move caret .lineEnd).1 = .ok (.of caret.position.line (lastSlot action raw)) :=
  move_of_mem_slots hreader hraw hparse rfl rfl (fun p => by rw [decideWithin])
    (isGreatest_lastSlot (ActionLine.expressible_of_parse? hparse) raw).1

/-- The caret rests on a slot of an action line. -/
structure RestsOn (nav : Navigation) (caret : Caret) (action : ActionLine) (raw : Text) : Prop where
  line : nav.reader.line? caret.position.line = some raw
  parsed : ActionLine.parse? nav.frameColumns raw = some action
  slot : caret.position.column ∈ slots action raw

namespace RestsOn

variable {caret : Caret} {m : Movement}

theorem expressible (h : nav.RestsOn caret action raw) : action.Expressible :=
  ActionLine.expressible_of_parse? h.parsed

theorem stops_eq (h : nav.RestsOn caret action raw) :
    nav.stops caret.position.line = slots action raw :=
  stops_of_action h.line h.parsed

theorem bounds (h : nav.RestsOn caret action raw) (hreader : nav.reader.IsFaithful) :
    1 ≤ caret.position.line ∧ caret.position.line ≤ nav.reader.lineCount :=
  (hreader _).mp ⟨raw, h.line⟩

/-- The rules are asked about the slot where the caret rests. -/
theorem destination_eq (h : nav.RestsOn caret action raw) :
    nav.destination caret m = (nav.decide action raw caret.position.rehint m).bind fun decision =>
      match decision with
      | .toColumn column => .ok ⟨.of caret.position.line column, true, caret.remembered⟩
      | .toLine line => .ok ⟨.of line caret.position.column, true, caret.remembered⟩
      | .wrapTo target => .ok ⟨target, true, caret.remembered⟩
      | .handOver => nav.handOver caret.position.rehint m caret.remembered := by
  rw [destination_of_action h.line h.parsed, landingSlot_of_mem h.expressible h.slot]
  rfl

/-- Within the line the caret lands on the slot of the column that the rules give. -/
theorem move_of_toColumn (h : nav.RestsOn caret action raw) (hreader : nav.reader.IsFaithful)
    (hdecide : nav.decide action raw caret.position.rehint m = .ok (.toColumn column)) :
    (nav.move caret m).1 = .ok (.of caret.position.line (landingSlot action raw column)) := by
  have hline := landingLine_of_faithful hreader h.line
  refine move_eq_ok_iff.mpr ⟨⟨.of caret.position.line column, true, caret.remembered⟩, ?_, ?_⟩
  · rw [h.destination_eq, hdecide]
    rfl
  · rw [land_of_action (by rw [Position.line_of, hline]; exact h.line) h.parsed,
      Position.line_of, hline]
    rfl

/-- Over the end of the line the caret lands wherever the wrap leads. -/
theorem move_of_wrapTo {target p : Position} (h : nav.RestsOn caret action raw)
    (hdecide : nav.decide action raw caret.position.rehint m = .ok (.wrapTo target))
    (hland : nav.land target true = .ok p) : (nav.move caret m).1 = .ok p := by
  refine move_eq_ok_iff.mpr ⟨⟨target, true, caret.remembered⟩, ?_, hland⟩
  rw [h.destination_eq, hdecide]
  rfl

/-- Before the last slot a step to the right stays within the line. -/
theorem move_right_within (h : nav.RestsOn caret action raw) (hreader : nav.reader.IsFaithful)
    (hm : m.isRightward = true) (hlast : caret.position.column < lastSlot action raw)
    (hrule : decideWithin action raw caret.position.rehint m = .toColumn column) :
    (nav.move caret m).1 = .ok (.of caret.position.line (landingSlot action raw column)) := by
  have hdecide := decide_of_isRightward nav action raw caret.position.rehint hm
  rw [hrule, if_neg fun hwrap => Nat.not_le.mpr hlast hwrap.1] at hdecide
  exact h.move_of_toColumn hreader hdecide

/-- Behind the first slot a step to the left stays within the line. -/
theorem move_left_within (h : nav.RestsOn caret action raw) (hreader : nav.reader.IsFaithful)
    (hm : m.isLeftward = true) (hfirst : action.firstDigit < caret.position.column)
    (hrule : decideWithin action raw caret.position.rehint m = .toColumn column) :
    (nav.move caret m).1 = .ok (.of caret.position.line (landingSlot action raw column)) := by
  have hdecide := decide_of_isLeftward nav action raw caret.position.rehint hm
  rw [hrule, if_neg fun hwrap => Nat.not_le.mpr hfirst hwrap.1] at hdecide
  exact h.move_of_toColumn hreader hdecide

/-- A step to the right lands on the column that the rules give; but from the last slot it leads to
the first stop of the line below, if there is one. -/
theorem move_of_isRightward (h : nav.RestsOn caret action raw) (hreader : nav.reader.IsFaithful)
    (hm : m.isRightward = true)
    (hrule : decideWithin action raw caret.position.rehint m = .toColumn column) :
    (caret.position.column < lastSlot action raw ∧
      (nav.move caret m).1 = .ok (.of caret.position.line (landingSlot action raw column))) ∨
    (caret.position.column = lastSlot action raw ∧
      caret.position.line < nav.reader.lineCount ∧
      ∃ first, (nav.move caret m).1 = .ok (.of (caret.position.line + 1) first) ∧
        IsLeast (nav.stops (caret.position.line + 1)) first) ∨
    (caret.position.column = lastSlot action raw ∧
      nav.reader.lineCount ≤ caret.position.line ∧
      (nav.move caret m).1 = .ok (.of caret.position.line (landingSlot action raw column))) := by
  have hgreatest := isGreatest_lastSlot h.expressible raw
  have hdecide := decide_of_isRightward nav action raw caret.position.rehint hm
  rw [hrule] at hdecide
  rcases Nat.lt_or_eq_of_le (hgreatest.2 h.slot) with hlast | hlast
  · exact Or.inl ⟨hlast, h.move_right_within hreader hm hlast hrule⟩
  rcases Nat.lt_or_ge caret.position.line nav.reader.lineCount with hmore | hend
  · -- over the end of the line
    obtain ⟨first, hland, hfirst⟩ :=
      exists_land_first hreader ⟨Nat.le_add_left 1 caret.position.line, hmore⟩ true
    rw [if_pos ⟨Nat.le_of_eq hlast.symm, hmore⟩] at hdecide
    exact Or.inr (Or.inl ⟨hlast, hmore, first, h.move_of_wrapTo hdecide hland, hfirst⟩)
  · -- at the end of the document
    rw [if_neg fun hwrap => Nat.not_le.mpr hwrap.2 hend] at hdecide
    exact Or.inr (Or.inr ⟨hlast, hend, h.move_of_toColumn hreader hdecide⟩)

/-- A step to the left lands on the column that the rules give; but from the first slot it leads to
the last stop of the line above, if there is one. -/
theorem move_of_isLeftward (h : nav.RestsOn caret action raw) (hreader : nav.reader.IsFaithful)
    (hm : m.isLeftward = true)
    (hrule : decideWithin action raw caret.position.rehint m = .toColumn column) :
    (action.firstDigit < caret.position.column ∧
      (nav.move caret m).1 = .ok (.of caret.position.line (landingSlot action raw column))) ∨
    (caret.position.column = action.firstDigit ∧ 1 < caret.position.line ∧
      ∃ last, (nav.move caret m).1 = .ok (.of (caret.position.line - 1) last) ∧
        IsGreatest (nav.stops (caret.position.line - 1)) last) ∨
    (caret.position.column = action.firstDigit ∧ caret.position.line ≤ 1 ∧
      (nav.move caret m).1 = .ok (.of caret.position.line (landingSlot action raw column))) := by
  have hline := h.bounds hreader
  have hleast := isLeast_firstDigit h.expressible raw
  have hdecide := decide_of_isLeftward nav action raw caret.position.rehint hm
  rw [hrule] at hdecide
  rcases Nat.lt_or_eq_of_le (hleast.2 h.slot) with hfirst | hfirst
  · exact Or.inl ⟨hfirst, h.move_left_within hreader hm hfirst hrule⟩
  rcases Nat.lt_or_ge 1 caret.position.line with hmore | hend
  · -- over the start of the line
    have habove : 1 ≤ caret.position.line - 1 ∧
        caret.position.line - 1 ≤ nav.reader.lineCount := by omega
    obtain ⟨last, hlast, hgreatest⟩ := exists_lastSlotOf hreader habove
    have hland := land_of_mem_stops hreader hgreatest.1 true
    rw [if_pos ⟨Nat.le_of_eq hfirst.symm, hmore⟩,
      show caret.position.rehint.line = caret.position.line from rfl, hlast] at hdecide
    exact Or.inr (Or.inl ⟨hfirst.symm, hmore, last, h.move_of_wrapTo hdecide hland, hgreatest⟩)
  · -- at the start of the document
    rw [if_neg fun hwrap => Nat.not_le.mpr hwrap.2 hend] at hdecide
    exact Or.inr (Or.inr ⟨hfirst.symm, hend, h.move_of_toColumn hreader hdecide⟩)

/-- **A step to the right** leads to the next stop. -/
theorem move_charRight (h : nav.RestsOn caret action raw) (hreader : nav.reader.IsFaithful) :
    ∃ line column, (nav.move caret .charRight).1 = .ok (.of line column) ∧
      nav.StepsRight caret.position.line caret.position.column line column := by
  have haction := h.expressible
  have hgreatest := isGreatest_lastSlot haction raw
  have hrule : decideWithin action raw caret.position.rehint .charRight =
      .toColumn (rightOf action caret.position.column) :=
    decideWithin_charRight haction (isSlot_of_mem_slots haction h.slot)
  rcases h.move_of_isRightward hreader rfl hrule with
    ⟨hlast, hmove⟩ | ⟨hlast, hmore, first, hmove, hfirst⟩ | ⟨hlast, hend, hmove⟩
  · have hnext := isLeast_rightOf haction h.slot hlast
    refine ⟨_, _, hmove, ?_⟩
    rw [landingSlot_of_mem haction hnext.1.1]
    exact .within (by rwa [h.stops_eq])
  · rw [← hlast, ← h.stops_eq] at hgreatest
    exact ⟨_, _, hmove, .wrap hgreatest hmore hfirst⟩
  · have hbeyond : lastSlot action raw ≤ rightOf action caret.position.column := by
      rw [← hlast, rightOf]
      split <;> omega
    rw [← hlast, ← h.stops_eq] at hgreatest
    refine ⟨_, _, hmove, ?_⟩
    rw [landingSlot_of_lastSlot_le haction hbeyond, ← hlast]
    exact .stay hgreatest hend

/-- **A step to the left** leads to the stop before, and so does backspace. -/
theorem move_charLeft (h : nav.RestsOn caret action raw) (hreader : nav.reader.IsFaithful)
    (hm : m = .charLeft ∨ m = .backspace) :
    ∃ line column, (nav.move caret m).1 = .ok (.of line column) ∧
      nav.StepsLeft caret.position.line caret.position.column line column := by
  have haction := h.expressible
  have hleast := isLeast_firstDigit haction raw
  have hrule : decideWithin action raw caret.position.rehint m =
      .toColumn (leftOf action caret.position.column) :=
    decideWithin_charLeft haction (isSlot_of_mem_slots haction h.slot) hm
  have hleft : m.isLeftward = true := by rcases hm with rfl | rfl <;> rfl
  rcases h.move_of_isLeftward hreader hleft hrule with
    ⟨hfirst, hmove⟩ | ⟨hfirst, hmore, last, hmove, hgreatest⟩ | ⟨hfirst, hend, hmove⟩
  · have hnext := isGreatest_leftOf haction h.slot hfirst
    refine ⟨_, _, hmove, ?_⟩
    rw [landingSlot_of_mem haction hnext.1.1]
    exact .within (by rwa [h.stops_eq])
  · rw [← hfirst, ← h.stops_eq] at hleast
    exact ⟨_, _, hmove, .wrap hleast hmore hgreatest⟩
  · have hbefore : leftOf action caret.position.column ≤ action.firstDigit := by
      rw [hfirst, leftOf]
      split <;> omega
    rw [← hfirst, ← h.stops_eq] at hleast
    refine ⟨_, _, hmove, ?_⟩
    rw [landingSlot_of_le_firstDigit haction raw hbefore, ← hfirst]
    exact .stay hleast hend

theorem move_lineStart (h : nav.RestsOn caret action raw) (hreader : nav.reader.IsFaithful) :
    (nav.move caret .lineStart).1 = .ok (.of caret.position.line action.firstDigit) :=
  move_of_mem_slots hreader h.line h.parsed rfl rfl (fun p => by rw [decideWithin])
    (isLeast_firstDigit h.expressible raw).1

theorem move_lineEnd (h : nav.RestsOn caret action raw) (hreader : nav.reader.IsFaithful) :
    (nav.move caret .lineEnd).1 = .ok (.of caret.position.line (lastSlot action raw)) :=
  move_lineEnd_of_action hreader h.line h.parsed

end RestsOn

/-! ### There and back -/

/-- A caret at a stop of an action line rests on a slot. -/
theorem exists_restsOn {caret : Caret}
    (haction : (nav.actionLine? caret.position.line).isSome = true)
    (hstop : caret.position.column ∈ nav.stops caret.position.line) :
    ∃ action raw, nav.RestsOn caret action raw := by
  obtain ⟨action, haction⟩ := Option.isSome_iff_exists.mp haction
  obtain ⟨raw, hraw, hparse⟩ := actionLine?_eq_some_iff.mp haction
  rw [stops_of_action hraw hparse] at hstop
  exact ⟨action, raw, hraw, hparse, hstop⟩

namespace RestsOn

variable {caret : Caret} {p : Position}

/-- A step to the right that moved to an action line is taken back by a step to the left. -/
theorem charLeft_charRight (h : nav.RestsOn caret action raw) (hreader : nav.reader.IsFaithful)
    (hmove : (nav.move caret .charRight).1 = .ok p)
    (hmoved : ¬ (p.line = caret.position.line ∧ p.column = caret.position.column))
    (haction : (nav.actionLine? p.line).isSome = true) :
    (nav.move (nav.move caret .charRight).2 .charLeft).1 = .ok caret.position.rehint := by
  have hposition := position_of_move hmove
  obtain ⟨line, column, hright, hstep⟩ := h.move_charRight hreader
  cases hmove.symm.trans hright
  generalize (nav.move caret .charRight).2 = after at hposition ⊢
  rw [← hposition] at haction hmoved
  have hback : nav.StepsLeft after.position.line after.position.column caret.position.line
      caret.position.column := by
    rw [hposition] at hmoved ⊢
    exact hstep.symm (h.bounds hreader).1 (h.stops_eq ▸ h.slot) hmoved
  obtain ⟨action', raw', h'⟩ := exists_restsOn haction (by rw [hposition]; exact hstep.mem_stops)
  obtain ⟨line', column', hleft, hstep'⟩ := h'.move_charLeft hreader (Or.inl rfl)
  obtain ⟨rfl, rfl⟩ := hstep'.unique hback
  exact hleft

/-- A step to the left that moved to an action line is taken back by a step to the right. -/
theorem charRight_charLeft (h : nav.RestsOn caret action raw) (hreader : nav.reader.IsFaithful)
    (hmove : (nav.move caret .charLeft).1 = .ok p)
    (hmoved : ¬ (p.line = caret.position.line ∧ p.column = caret.position.column))
    (haction : (nav.actionLine? p.line).isSome = true) :
    (nav.move (nav.move caret .charLeft).2 .charRight).1 = .ok caret.position.rehint := by
  have hposition := position_of_move hmove
  obtain ⟨line, column, hleft, hstep⟩ := h.move_charLeft hreader (Or.inl rfl)
  cases hmove.symm.trans hleft
  generalize (nav.move caret .charLeft).2 = after at hposition ⊢
  rw [← hposition] at haction hmoved
  have hback : nav.StepsRight after.position.line after.position.column caret.position.line
      caret.position.column := by
    rw [hposition] at hmoved ⊢
    exact hstep.symm (h.bounds hreader).2 (h.stops_eq ▸ h.slot) hmoved
  obtain ⟨action', raw', h'⟩ := exists_restsOn haction (by rw [hposition]; exact hstep.mem_stops)
  obtain ⟨line', column', hright, hstep'⟩ := h'.move_charRight hreader
  obtain ⟨rfl, rfl⟩ := hstep'.unique hback
  exact hright

end RestsOn

/-- **Steps walk the stops of a document.** From a slot of an action line a step to the right leads
to the next stop, a step to the left and backspace to the stop before, and the keys for start and
end of the line to its first and last slot. Between action lines the steps undo each other. -/
theorem steps_walk_stops {doc : Document} (hdoc : nav.reader = doc.reader) {caret : Caret}
    (h : nav.RestsOn caret action raw) :
    (∃ line column, (nav.move caret .charRight).1 = .ok (.of line column) ∧
      nav.StepsRight caret.position.line caret.position.column line column) ∧
    (∀ m, m = .charLeft ∨ m = .backspace →
      ∃ line column, (nav.move caret m).1 = .ok (.of line column) ∧
        nav.StepsLeft caret.position.line caret.position.column line column) ∧
    (∃ first, IsLeast (slots action raw) first ∧
      (nav.move caret .lineStart).1 = .ok (.of caret.position.line first)) ∧
    (∃ last, IsGreatest (slots action raw) last ∧
      (nav.move caret .lineEnd).1 = .ok (.of caret.position.line last)) ∧
    ∀ m back, (m = .charRight ∧ back = .charLeft) ∨ (m = .charLeft ∧ back = .charRight) →
      ∀ p, (nav.move caret m).1 = .ok p →
        ¬ (p.line = caret.position.line ∧ p.column = caret.position.column) →
        (nav.actionLine? p.line).isSome = true →
        (nav.move (nav.move caret m).2 back).1 = .ok caret.position.rehint := by
  have hreader : nav.reader.IsFaithful := hdoc ▸ doc.isFaithful_reader
  refine ⟨h.move_charRight hreader, fun m hm => h.move_charLeft hreader hm,
    ⟨_, isLeast_firstDigit h.expressible raw, h.move_lineStart hreader⟩,
    ⟨_, isGreatest_lastSlot h.expressible raw, h.move_lineEnd hreader⟩, ?_⟩
  rintro m back (⟨rfl, rfl⟩ | ⟨rfl, rfl⟩) p hmove hmoved haction
  · exact h.charLeft_charRight hreader hmove hmoved haction
  · exact h.charRight_charLeft hreader hmove hmoved haction

/-- From the edge of the only input a step to the right leads to the line below. -/
theorem stepsRight_of_last_edge :
    ∃ nav : Navigation, nav.reader = (Document.ofText "  20,R\nword".toList).reader ∧
      nav.StepsRight 1 7 2 1 := by
  refine ⟨⟨_, PlainText.mover 20, 4⟩, rfl, ?_⟩
  have hrests : RestsOn ⟨(Document.ofText "  20,R\nword".toList).reader, PlainText.mover 20, 4⟩
      (.placedAt (.of 1 7)) ((ActionLine.ofFrames 20 (.single .right)).withWidth 4)
      "  20,R".toList :=
    ⟨by decide +kernel, by decide +kernel, Or.inr (Or.inl (by decide +kernel))⟩
  obtain ⟨line, column, hmove, hstep⟩ := (steps_walk_stops rfl hrests).1
  have hresult : (move ⟨(Document.ofText "  20,R\nword".toList).reader, PlainText.mover 20, 4⟩
      (.placedAt (.of 1 7)) .charRight).1 = .ok (.of 2 1) :=
    Outcome.toOption_eq_some_iff.mp (by decide +kernel)
  have hplace : Position.of line column = .of 2 1 := Except.ok.inj (hmove.symm.trans hresult)
  obtain rfl : line = 2 := congrArg Position.line hplace
  obtain rfl : column = 1 := congrArg Position.column hplace
  exact hstep

end Navigation

end FrameScript
