import FrameScript.ActionLine.Printer
import FrameScript.Proofs.ActionLine.Grammar
import FrameScript.Proofs.ActionLine.Spacing
import FrameScript.Proofs.InputSet

/-!
# Letters in any order

On an action line letters may stand in any order and case and be repeated, and feather with the
numbers that belong to it may stand anywhere among them. Lines that say the same in different orders
are read as the same line.

Two runs of the reader are compared here. Nothing that a field does depends on the inputs that are
already held, so runs over the same fields that begin alike apart from the inputs end alike apart
from the inputs: `Draft.bare_read` is one field, `Draft.bare_foldlM_read` all of them. Letters
change inputs only, so of a whole line nothing but the numbers of feather is left, wherever they
stand: `Arranges.bare_foldlM_read`. And the inputs are those whose letters occur, wherever.

## Main definitions

* `ActionLine.Arranges` — letters in any order, and at most one feather with its numbers
* `ActionLine.Arranged` — the text of a frame count and fields that are so arranged

## Main results

* `ActionLine.Draft.bare_foldlM_read` — reading does not depend on the inputs that are held
* `ActionLine.Arranged.bare_parse` — the numbers of feather decide on everything but the inputs
* `ActionLine.parse_eq_of_arranged` — lines that say the same are read as the same
-/

namespace FrameScript

namespace ActionLine

/-! ### Arrangements -/

/-- Every field is the letter of an input, and none is that of feather. -/
def AreButtons (fs : List Text) : Prop := ∀ f ∈ fs, ∃ i, Names f i ∧ i ≠ .feather

instance (fs : List Text) : Decidable (AreButtons fs) :=
  decidable_of_iff (∀ f ∈ fs, (readInput f).toOption.any (· ≠ .feather) = true) <|
    forall₂_congr fun f _ => by
      simp [Option.any_eq_true, Outcome.toOption_eq_some_iff, readInput_eq_ok_iff]

/-- The fields are letters in any order. Feather is among them at most once, and directly behind it
stand these fields, at most two, that begin like numbers. -/
inductive Arranges : List Text → Option (List Text) → Prop
  | plain {letters : List Text} : AreButtons letters → Arranges letters none
  | aiming {before numbers after : List Text} {f : Text} : AreButtons before → Names f .feather →
      numbers.length ≤ 2 → (∀ number ∈ numbers, startsNumber number = true) →
      AreButtons after → Arranges (before ++ f :: (numbers ++ after)) (some numbers)

/-- The text of a frame count and of fields that are so arranged, with any blanks between. -/
structure Arranged (width : FrameWidth) (text first : Text) (rest : List Text)
    (numbers : Option (List Text)) : Prop where
  spells : Spells text (first :: rest)
  frames : IsFrames width first
  arranges : Arranges rest numbers

variable {fs : List Text}

theorem AreButtons.not_names_feather (h : AreButtons fs) : ¬ ∃ f ∈ fs, Names f .feather := by
  rintro ⟨f, hf, hfeather⟩
  obtain ⟨i, hname, hi⟩ := h f hf
  exact hi (names_unique hname hfeather)

theorem Arranges.names_feather_iff {numbers : Option (List Text)} (h : Arranges fs numbers) :
    (∃ f ∈ fs, Names f .feather) ↔ numbers.isSome = true := by
  cases h with
  | plain hletters => exact iff_of_false hletters.not_names_feather Bool.false_ne_true
  | aiming _ hfeather => exact iff_of_true ⟨_, by simp, hfeather⟩ rfl

theorem Arranges.two_numbers {numbers : List Text} (h : Arranges fs (some numbers)) :
    numbers.length ≤ 2 ∧ ∀ number ∈ numbers, startsNumber number = true := by
  cases h with
  | aiming _ _ hlength hstart => exact ⟨hlength, hstart⟩

/-! ### Everything but the inputs -/

/-- The line apart from the inputs that it holds. -/
def bare (line : ActionLine) : Nat × Option Aim × FrameWidth := (line.frames, line.aim, line.width)

theorem eq_of_bare_eq {line other : ActionLine} (h : line.bare = other.bare)
    (hinputs : line.inputs = other.inputs) : line = other := by
  obtain ⟨hframes, haim, hwidth⟩ : line.frames = other.frames ∧ line.aim = other.aim ∧
      line.width = other.width := by simpa [bare] using h
  exact ActionLine.ext hframes hinputs haim hwidth

namespace Draft

variable {draft other : Draft}

/-- The draft apart from the inputs that it holds. -/
def bare (draft : Draft) : (Nat × Option Aim × FrameWidth) × Awaited :=
  (draft.line.bare, draft.awaits)

theorem bare_eq_iff : draft.bare = other.bare ↔ draft.line.frames = other.line.frames ∧
    draft.line.aim = other.line.aim ∧ draft.line.width = other.line.width ∧
      draft.awaits = other.awaits := by
  simp [bare, ActionLine.bare, and_assoc]

/-- **One field** is read alike, whatever inputs are held. -/
theorem bare_read (h : draft.bare = other.bare) (field : Text) :
    (draft.read field).map bare = (other.read field).map bare := by
  obtain ⟨hframes, haim, hwidth, hawaits⟩ := bare_eq_iff.mp h
  rw [read, read, hawaits]
  by_cases hnil : field = []
  · rw [if_pos hnil, if_pos hnil]
  rw [if_neg hnil, if_neg hnil]
  by_cases hstart : startsNumber field = true
  · rw [if_pos hstart, if_pos hstart]
    cases other.awaits with
    | nothing => rfl
    | angle =>
      refine Outcome.map_map_congr fun x => bare_eq_iff.mpr ⟨hframes, ?_, hwidth, rfl⟩
      show some (Aim.mk x (draft.line.aim.bind Aim.magnitude)) = some _
      rw [haim]
    | magnitude =>
      refine Outcome.map_map_congr fun x => bare_eq_iff.mpr ⟨hframes, ?_, hwidth, rfl⟩
      rw [aim_withMagnitude, aim_withMagnitude, haim]
  · rw [if_neg hstart, if_neg hstart]
    exact Outcome.map_map_congr fun i => bare_eq_iff.mpr ⟨hframes, haim, hwidth, rfl⟩

/-- **All fields** are. -/
theorem bare_foldlM_read (h : draft.bare = other.bare) (fs : List Text) :
    (fs.foldlM read draft).map bare = (fs.foldlM read other).map bare := by
  induction fs generalizing draft other with
  | nil => exact congrArg Except.ok h
  | cons f fs ih =>
    rw [List.foldlM_cons, List.foldlM_cons]
    rcases Outcome.map_eq_map_iff.mp (bare_read h f) with
      ⟨e, hdraft, hother⟩ | ⟨_, _, hdraft, hother, hnext⟩
    · rw [hdraft, hother]
    · rw [hdraft, hother, Outcome.ok_bind, Outcome.ok_bind]
      exact ih hnext

/-- Letters change nothing but the inputs. -/
theorem exists_foldlM_buttons (h : AreButtons fs) (draft : Draft) :
    ∃ after, fs.foldlM read draft = .ok after ∧ after.line.bare = draft.line.bare := by
  induction fs generalizing draft with
  | nil => exact ⟨draft, rfl, rfl⟩
  | cons f fs ih =>
    obtain ⟨i, hname, -⟩ := h f (List.mem_cons_self ..)
    have hread : draft.read f =
        .ok ⟨draft.line.addInput i, if i = .feather then .angle else .nothing⟩ :=
      read_eq_ok_iff.mpr (Or.inl ⟨i, hname, rfl⟩)
    obtain ⟨after, hafter, hbare⟩ := ih (fun g hg => h g (List.mem_cons_of_mem _ hg))
      ⟨draft.line.addInput i, if i = .feather then .angle else .nothing⟩
    refine ⟨after, ?_, hbare⟩
    rw [List.foldlM_cons, hread, Outcome.ok_bind, hafter]

/-- Reads the numbers of feather and nothing else; without feather there are none. -/
def readNumbers (line : ActionLine) : Option (List Text) → Except ParseError Draft
  | none => .ok ⟨line, .nothing⟩
  | some numbers => numbers.foldlM read ⟨line, .angle⟩

end Draft

/-- **Wherever the numbers stand,** they decide on everything but the inputs. -/
theorem Arranges.bare_foldlM_read {numbers : Option (List Text)} (h : Arranges fs numbers)
    (draft : Draft) :
    (fs.foldlM Draft.read draft).map (bare ∘ Draft.line) =
      (Draft.readNumbers draft.line numbers).map (bare ∘ Draft.line) := by
  cases h with
  | plain hletters =>
    obtain ⟨after, hread, hbare⟩ := Draft.exists_foldlM_buttons hletters draft
    rw [hread]
    exact congrArg Except.ok hbare
  | @aiming before numbers after f hbefore hfeather _ _ hafter =>
    obtain ⟨mid, hmid, hbare⟩ := Draft.exists_foldlM_buttons hbefore draft
    have hread : mid.read f = .ok ⟨mid.line.addInput .feather, .angle⟩ :=
      Draft.read_eq_ok_iff.mpr (Or.inl ⟨_, hfeather, rfl⟩)
    rw [Outcome.foldlM_append_of_ok hmid, List.foldlM_cons, hread, Outcome.ok_bind,
      List.foldlM_append, Draft.readNumbers]
    have hsame : (Draft.mk (mid.line.addInput .feather) .angle).bare =
        (Draft.mk draft.line .angle).bare := congrArg (·, Awaited.angle) hbare
    rcases Outcome.map_eq_map_iff.mp (Draft.bare_foldlM_read hsame numbers) with
      ⟨e, hleft, hright⟩ | ⟨_, _, hleft, hright, haimed⟩
    · rw [hleft, hright]
      rfl
    · obtain ⟨last, hlast, hbare'⟩ := Draft.exists_foldlM_buttons hafter _
      rw [hleft, hright, Outcome.ok_bind, hlast]
      exact congrArg Except.ok (hbare'.trans (congrArg Prod.fst haimed))

/-! ### The numbers of feather -/

/-- How many numbers may still come. -/
def Awaited.room : Awaited → Nat
  | .nothing => 0
  | .magnitude => 1
  | .angle => 2

namespace Draft

variable {numbers others : List Text}

/-- The draft after a number that it awaits. -/
def give (draft : Draft) (x : Binary64) : Draft :=
  match draft.awaits with
  | .nothing => draft
  | .angle => ⟨draft.line.withAngle x, .magnitude⟩
  | .magnitude => ⟨draft.line.withMagnitude x, .nothing⟩

/-- A number that is given leaves room for the others. -/
theorem length_le_room_give {draft : Draft} {number : Text}
    (h : (number :: numbers).length ≤ draft.awaits.room) (x : Binary64) :
    numbers.length ≤ (draft.give x).awaits.room := by
  obtain ⟨line, awaits⟩ := draft
  cases awaits with
  | nothing => exact absurd h (Nat.not_succ_le_zero _)
  | angle => exact Nat.le_of_succ_le_succ h
  | magnitude => exact Nat.le_of_succ_le_succ h

/-- A field that begins like a number counts as what it is read as. -/
theorem read_of_startsNumber {draft : Draft} {field : Text} (hstart : startsNumber field = true)
    (hroom : 0 < draft.awaits.room) : draft.read field = (readValue field).map draft.give := by
  have hnil : field ≠ [] := by
    rintro rfl
    exact Bool.false_ne_true hstart
  obtain ⟨line, awaits⟩ := draft
  rw [read, if_neg hnil, if_pos hstart]
  cases awaits with
  | nothing => exact absurd hroom (Nat.lt_irrefl 0)
  | angle => rfl
  | magnitude => rfl

/-- Numbers that are read as the same, however they are written, count as the same. -/
theorem foldlM_read_congr {draft : Draft}
    (hnumbers : ∀ number ∈ numbers, startsNumber number = true)
    (hothers : ∀ number ∈ others, startsNumber number = true)
    (hroom : numbers.length ≤ draft.awaits.room)
    (hsame : numbers.map readValue = others.map readValue) :
    numbers.foldlM read draft = others.foldlM read draft := by
  induction numbers generalizing draft others with
  | nil =>
    rw [List.map_eq_nil_iff.mp hsame.symm]
  | cons number numbers ih =>
    obtain ⟨other, others, rfl, hread, hrest⟩ := List.map_eq_cons_iff.mp hsame.symm
    rw [List.forall_mem_cons] at hnumbers hothers
    have hpos : 0 < draft.awaits.room := Nat.lt_of_lt_of_le (Nat.succ_pos _) hroom
    rw [List.foldlM_cons, List.foldlM_cons, read_of_startsNumber hnumbers.1 hpos,
      read_of_startsNumber hothers.1 hpos, hread]
    cases readValue number with
    | error e => rfl
    | ok x => exact ih hnumbers.2 hothers.2 (length_le_room_give hroom x) hrest.symm

/-- They are read to the end exactly if each is a finite number. -/
theorem exists_foldlM_numbers_iff {draft : Draft}
    (hstart : ∀ number ∈ numbers, startsNumber number = true)
    (hroom : numbers.length ≤ draft.awaits.room) :
    (∃ after, numbers.foldlM read draft = .ok after) ↔
      ∀ number ∈ numbers, ∃ x, IsNumber number x := by
  induction numbers generalizing draft with
  | nil => simp [pure, Except.pure]
  | cons number numbers ih =>
    rw [List.forall_mem_cons] at hstart
    have hpos : 0 < draft.awaits.room := Nat.lt_of_lt_of_le (Nat.succ_pos _) hroom
    rw [List.foldlM_cons, read_of_startsNumber hstart.1 hpos, List.forall_mem_cons]
    simp only [isNumber_iff_readValue hstart.1]
    cases readValue number with
    | error e =>
      refine iff_of_false ?_ ?_
      · rintro ⟨after, hafter⟩
        cases hafter
      · rintro ⟨⟨x, hx⟩, -⟩
        cases hx
    | ok x => exact (ih hstart.2 (length_le_room_give hroom x)).trans (and_iff_right ⟨x, rfl⟩).symm

end Draft

/-! ### Whole lines -/

section Lines

variable {columns : Nat} {text other first first' : Text} {rest rest' : List Text}

namespace Arranged

variable {numbers others : Option (List Text)}

theorem fields_eq (h : Arranged (.clamp columns) text first rest numbers) :
    fields text = first :: rest := h.spells.fields_eq

/-- **Of a whole line** the numbers of feather decide on everything but the inputs. -/
theorem bare_parse (h : Arranged (.clamp columns) text first rest numbers) :
    (parse columns text).map bare =
      (Draft.readNumbers (Draft.start columns (Decimal.digitsValue first)).line numbers).map
        (bare ∘ Draft.line) := by
  have htrim := trim_ne_nil_of_fields h.fields_eq h.frames.1
  rw [parse_of_fields htrim h.fields_eq, readFrames_eq_ok_iff.mpr ⟨h.frames, rfl⟩,
    Outcome.ok_bind, ← h.arranges.bare_foldlM_read]
  cases rest.foldlM Draft.read (.start columns (Decimal.digitsValue first)) <;> rfl

/-- The inputs of the line are those whose letters occur. -/
theorem mem_inputs_iff (h : Arranged (.clamp columns) text first rest numbers) {line : ActionLine}
    (hline : parse columns text = .ok line) (i : Input) :
    i ∈ line.inputs ↔ ∃ f ∈ rest, Names f i := by
  rw [(means_of_parse hline).inputs, h.fields_eq]
  simp [not_names_of_isFrames h.frames]

/-- The line is read exactly if the numbers of feather are finite numbers. -/
theorem exists_parse_iff (h : Arranged (.clamp columns) text first rest numbers) :
    (∃ line, parse columns text = .ok line) ↔
      ∀ fs ∈ numbers, ∀ number ∈ fs, ∃ x, IsNumber number x := by
  rw [Outcome.exists_ok_iff_of_map_eq h.bare_parse]
  cases numbers with
  | none => simp [Draft.readNumbers]
  | some fs =>
    obtain ⟨hlength, hstart⟩ := h.arranges.two_numbers
    refine (Draft.exists_foldlM_numbers_iff hstart ?_).trans ?_
    · exact hlength
    · simp

end Arranged

/-- Feathers whose numbers are read as the same aim the same. -/
theorem readNumbers_congr {numbers others : Option (List Text)} (hrest : Arranges rest numbers)
    (hrest' : Arranges rest' others)
    (hsame : numbers.map (List.map readValue) = others.map (List.map readValue))
    (line : ActionLine) : Draft.readNumbers line numbers = Draft.readNumbers line others := by
  cases numbers with
  | none =>
    rw [Option.map_eq_none_iff.mp hsame.symm]
  | some fs =>
    obtain ⟨fs', rfl, hfs⟩ := Option.map_eq_some_iff.mp hsame.symm
    obtain ⟨hlength, hstart⟩ := hrest.two_numbers
    exact Draft.foldlM_read_congr hstart hrest'.two_numbers.2 hlength hfs.symm

/-- **Lines that say the same are read as the same.** The same frame count, the same letters other
than feather's and the same numbers behind feather are one line, in whatever order the letters and
feather stand, however often a letter is repeated, and whatever the cases, leading zeros and blanks.
It is read exactly if the numbers are finite. -/
theorem parse_eq_of_arranged {numbers others : Option (List Text)}
    (h : Arranged (.clamp columns) text first rest numbers)
    (h' : Arranged (.clamp columns) other first' rest' others)
    (hframes : Decimal.digitsValue first = Decimal.digitsValue first')
    (hnumbers : numbers.map (List.map readValue) = others.map (List.map readValue))
    (hbuttons : ∀ i, i ≠ .feather → ((∃ f ∈ rest, Names f i) ↔ ∃ f ∈ rest', Names f i)) :
    parse columns text = parse columns other ∧
      (parse columns text).map render = (parse columns other).map render ∧
      ((∃ line, parse columns text = .ok line ∧ parse columns other = .ok line) ↔
        ∀ fs ∈ numbers, ∀ number ∈ fs, ∃ x, IsNumber number x) := by
  have hinputs : ∀ i, (∃ f ∈ rest, Names f i) ↔ ∃ f ∈ rest', Names f i := by
    intro i
    by_cases hi : i = .feather
    · subst hi
      rw [h.arranges.names_feather_iff, h'.arranges.names_feather_iff,
        ← Option.isSome_map (f := List.map readValue), hnumbers, Option.isSome_map]
    · exact hbuttons i hi
  have hbare : (parse columns text).map bare = (parse columns other).map bare := by
    rw [h.bare_parse, h'.bare_parse, hframes, readNumbers_congr h.arranges h'.arranges hnumbers]
  have hsame : parse columns text = parse columns other := by
    rcases Outcome.map_eq_map_iff.mp hbare with
      ⟨e, htext, hother⟩ | ⟨line, line', htext, hother, hline⟩
    · rw [htext, hother]
    · have hmem : ∀ i, i ∈ line.inputs ↔ i ∈ line'.inputs := fun i => by
        rw [h.mem_inputs_iff htext, h'.mem_inputs_iff hother, hinputs]
      rw [htext, hother, eq_of_bare_eq hline (InputSet.eq_of_mem_iff
        (expressible_of_parse htext).known (expressible_of_parse hother).known hmem)]
  refine ⟨hsame, by rw [hsame], ?_⟩
  rw [← h.exists_parse_iff]
  simp only [← hsame, and_self]

end Lines

/-- Two lines that hold two buttons and aim: feather stands last in one and first in the other, and
its angle is written in two ways. -/
theorem parse_eq_of_moved_feather :
    ∃ line, parse 4 "0015, s,r ,F,.5".toList = .ok line ∧
      parse 4 " 15,f,0.50,R,r,S ".toList = .ok line ∧ line.render = "  15,R,S,F,0.5".toList := by
  have hfifteen := readFrames_eq_ok_iff.mp
    (show readFrames (.clamp 4) "0015".toList = .ok 15 by decide +kernel)
  have hfifteen' := readFrames_eq_ok_iff.mp
    (show readFrames (.clamp 4) "15".toList = .ok 15 by decide +kernel)
  have hbefore : AreButtons ["s".toList, "r".toList] := by decide +kernel
  have hafter : AreButtons ["R".toList, "r".toList, "S".toList] := by decide +kernel
  have hfirst : Arranged (.clamp 4) "0015, s,r ,F,.5".toList "0015".toList
      (["s".toList, "r".toList] ++ "F".toList :: ([".5".toList] ++ [])) (some [".5".toList]) :=
    ⟨spells_iff.mpr (by decide +kernel), hfifteen.1,
      .aiming hbefore ⟨'F', rfl, rfl⟩ (by decide) (by decide) fun _ h => nomatch h⟩
  have hsecond : Arranged (.clamp 4) " 15,f,0.50,R,r,S ".toList "15".toList
      ([] ++ "f".toList :: (["0.50".toList] ++ ["R".toList, "r".toList, "S".toList]))
      (some ["0.50".toList]) :=
    ⟨spells_iff.mpr (by decide +kernel), hfifteen'.1,
      .aiming (fun _ h => nomatch h) ⟨'f', rfl, rfl⟩ (by decide) (by decide) hafter⟩
  have hbuttons : ∀ i, i ≠ .feather →
      ((∃ f ∈ ["s".toList, "r".toList] ++ "F".toList :: ([".5".toList] ++ []), Names f i) ↔
        ∃ f ∈ [] ++ "f".toList :: (["0.50".toList] ++ ["R".toList, "r".toList, "S".toList]),
          Names f i) := by
    simp only [← readInput_eq_ok_iff]
    intro i
    cases i <;> decide +kernel
  have hline : (parse? 4 "0015, s,r ,F,.5".toList).any
      (fun line => line.render = "  15,R,S,F,0.5".toList) = true := by
    decide +kernel
  obtain ⟨line, hread, hrender⟩ := Option.any_eq_true _ _ |>.mp hline
  have htext := parse?_eq_some_iff.mp hread
  obtain ⟨hsame, -, -⟩ := parse_eq_of_arranged hfirst hsecond
    (hfifteen.2.symm.trans hfifteen'.2) (by decide +kernel) hbuttons
  exact ⟨line, htext, hsame.symm.trans htext, of_decide_eq_true hrender⟩

end ActionLine

end FrameScript
