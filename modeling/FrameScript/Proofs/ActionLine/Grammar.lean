import FrameScript.Proofs.ActionLine.Expressible
import Mathlib.Algebra.Group.Nat.Defs

/-!
# The grammar of action lines

Which lists of fields are action lines, and what they mean, said by places in the list: where
feather stands, which numbers follow it, and which of those counts if feather is repeated. Reading
works from left to right and remembers one thing only, the number that may come next; the theorems
here say that this is enough.

The link is `Describes`: a draft describes the fields read so far if its line holds what they say
and it awaits what their end allows. One more field keeps this, and so a whole list does.

## Main definitions

* `ActionLine.Grammatical` — the fields are those of an action line
* `ActionLine.Means` — what such fields say about the line
* `ActionLine.Draft.Describes` — the draft says what the fields read so far say

## Main results

* `ActionLine.Draft.Describes.foldlM_read` — reading keeps describing what has been read
* `ActionLine.Draft.Describes.foldlM_read_ok_iff` — and goes on exactly if the grammar does
* `ActionLine.parse_ok_iff_grammatical` — the lines that are read are the grammatical ones, and
  they are read as what they mean
-/

namespace FrameScript

namespace ActionLine

/-! ### Places in a list of fields -/

/-- Field `k`, counted from zero, is the letter of feather. -/
def FeatherAt (fs : List Text) (k : Nat) : Prop := ∃ f, fs[k]? = some f ∧ Names f .feather

/-- Field `k` is the number `x`. -/
def NumberAt (fs : List Text) (k : Nat) (x : Binary64) : Prop :=
  ∃ f, fs[k]? = some f ∧ IsNumber f x

/-- Field `k` is the letter of feather, and the number `x` follows it. -/
def AngleAt (fs : List Text) (k : Nat) (x : Binary64) : Prop :=
  FeatherAt fs k ∧ NumberAt fs (k + 1) x

/-- Field `k` is the letter of feather, two numbers follow it, and `x` is the second. -/
def MagnitudeAt (fs : List Text) (k : Nat) (x : Binary64) : Prop :=
  (∃ y, AngleAt fs k y) ∧ NumberAt fs (k + 2) x

/-- Before field `k` stands the letter of feather, or a number that itself follows that letter. -/
def TakesNumber (fs : List Text) (k : Nat) : Prop :=
  (∃ j, j + 1 = k ∧ FeatherAt fs j) ∨ ∃ j y, j + 2 = k ∧ AngleAt fs j y

/-- The value at the last of the places that have one; none if no place has one. -/
def IsLast (holds : Nat → Binary64 → Prop) : Option Binary64 → Prop
  | none => ∀ k x, ¬ holds k x
  | some x => ∃ k, holds k x ∧ ∀ j y, holds j y → j ≤ k

/-! ### Grammar and meaning -/

/-- Field `k`, which is not the first, fits in where it stands. -/
def Fits (fs : List Text) (k : Nat) (f : Text) : Prop :=
  (∃ i, Names f i) ∨ (∃ x, IsNumber f x) ∧ TakesNumber fs k

/-- The fields of an action line: a frame count, and fields that fit in where they stand. -/
structure Grammatical (width : FrameWidth) (fs : List Text) : Prop where
  frames : ∃ first, fs[0]? = some first ∧ IsFrames width first
  later : ∀ k f, 0 < k → fs[k]? = some f → Fits fs k f

/-- What the fields of an action line say: the count, every input whose letter occurs, and of
repeated feathers the last that has an angle and the last that has a magnitude. -/
structure Means (width : FrameWidth) (fs : List Text) (line : ActionLine) : Prop where
  width_eq : line.width = width
  frames : ∃ first, fs[0]? = some first ∧ line.frames = Decimal.digitsValue first
  known : line.inputs.isKnown = true
  inputs : ∀ i, i ∈ line.inputs ↔ ∃ f ∈ fs, Names f i
  angle : IsLast (AngleAt fs) line.angle?
  magnitude : IsLast (MagnitudeAt fs) line.magnitude?

/-! ### One field more -/

section Concat

variable {fs more : List Text} {f : Text} {k : Nat} {x y : Binary64}

theorem FeatherAt.lt (h : FeatherAt fs k) : k < fs.length := by
  obtain ⟨_, hf, -⟩ := h
  exact (List.getElem?_eq_some_iff.mp hf).1

theorem NumberAt.lt (h : NumberAt fs k x) : k < fs.length := by
  obtain ⟨_, hf, -⟩ := h
  exact (List.getElem?_eq_some_iff.mp hf).1

theorem featherAt_append (hk : k < fs.length) : FeatherAt (fs ++ more) k ↔ FeatherAt fs k := by
  rw [FeatherAt, List.getElem?_append_left hk, FeatherAt]

theorem numberAt_append (hk : k < fs.length) : NumberAt (fs ++ more) k x ↔ NumberAt fs k x := by
  rw [NumberAt, List.getElem?_append_left hk, NumberAt]

/-- Whether a number may stand at a place is decided by what stands before it. -/
theorem takesNumber_append (hk : k ≤ fs.length) :
    TakesNumber (fs ++ more) k ↔ TakesNumber fs k := by
  refine or_congr (exists_congr fun j => and_congr_right fun hj => ?_)
    (exists_congr fun j => exists_congr fun y => and_congr_right fun hj => ?_)
  · exact featherAt_append (by omega)
  · exact and_congr (featherAt_append (by omega)) (numberAt_append (by omega))

theorem fits_append (hk : k ≤ fs.length) : Fits (fs ++ more) k f ↔ Fits fs k f :=
  or_congr_right (and_congr_right fun _ => takesNumber_append hk)

theorem getElem?_concat_eq_some_iff {g : Text} :
    (fs ++ [f])[k]? = some g ↔ fs[k]? = some g ∨ k = fs.length ∧ f = g := by
  rcases Nat.lt_trichotomy k fs.length with hlt | rfl | hgt
  · rw [List.getElem?_append_left hlt]
    exact (or_iff_left fun h => Nat.ne_of_lt hlt h.1).symm
  · simp
  · rw [List.getElem?_eq_none (by simp; omega), List.getElem?_eq_none (by omega)]
    simp only [reduceCtorEq, false_or, false_iff, not_and]
    intro h
    omega

theorem featherAt_concat :
    FeatherAt (fs ++ [f]) k ↔ FeatherAt fs k ∨ k = fs.length ∧ Names f .feather := by
  simp only [FeatherAt, getElem?_concat_eq_some_iff]
  constructor
  · rintro ⟨g, hg | ⟨hk, rfl⟩, hname⟩
    · exact Or.inl ⟨g, hg, hname⟩
    · exact Or.inr ⟨hk, hname⟩
  · rintro (⟨g, hg, hname⟩ | ⟨hk, hname⟩)
    · exact ⟨g, Or.inl hg, hname⟩
    · exact ⟨f, Or.inr ⟨hk, rfl⟩, hname⟩

theorem numberAt_concat :
    NumberAt (fs ++ [f]) k x ↔ NumberAt fs k x ∨ k = fs.length ∧ IsNumber f x := by
  simp only [NumberAt, getElem?_concat_eq_some_iff]
  constructor
  · rintro ⟨g, hg | ⟨hk, rfl⟩, hx⟩
    · exact Or.inl ⟨g, hg, hx⟩
    · exact Or.inr ⟨hk, hx⟩
  · rintro (⟨g, hg, hx⟩ | ⟨hk, hx⟩)
    · exact ⟨g, Or.inl hg, hx⟩
    · exact ⟨f, Or.inr ⟨hk, rfl⟩, hx⟩

theorem angleAt_concat :
    AngleAt (fs ++ [f]) k x ↔
      AngleAt fs k x ∨ k + 1 = fs.length ∧ FeatherAt fs k ∧ IsNumber f x := by
  rw [AngleAt, featherAt_concat, numberAt_concat]
  constructor
  · rintro ⟨hfeather | ⟨hk, -⟩, hnumber | ⟨hk', hx⟩⟩
    · exact Or.inl ⟨hfeather, hnumber⟩
    · exact Or.inr ⟨hk', hfeather, hx⟩
    · exact absurd hnumber.lt (by omega)
    · omega
  · rintro (⟨hfeather, hnumber⟩ | ⟨hk, hfeather, hx⟩)
    · exact ⟨Or.inl hfeather, Or.inl hnumber⟩
    · exact ⟨Or.inl hfeather, Or.inr ⟨hk, hx⟩⟩

theorem magnitudeAt_concat :
    MagnitudeAt (fs ++ [f]) k x ↔
      MagnitudeAt fs k x ∨ k + 2 = fs.length ∧ (∃ y, AngleAt fs k y) ∧ IsNumber f x := by
  simp only [MagnitudeAt, angleAt_concat, numberAt_concat]
  constructor
  · rintro ⟨⟨y, hangle | ⟨hk, -, -⟩⟩, hnumber | ⟨hk', hx⟩⟩
    · exact Or.inl ⟨⟨y, hangle⟩, hnumber⟩
    · exact Or.inr ⟨hk', ⟨y, hangle⟩, hx⟩
    · exact absurd hnumber.lt (by omega)
    · omega
  · rintro (⟨⟨y, hangle⟩, hnumber⟩ | ⟨hk, ⟨y, hangle⟩, hx⟩)
    · exact ⟨⟨y, Or.inl hangle⟩, Or.inl hnumber⟩
    · exact ⟨⟨y, Or.inl hangle⟩, Or.inr ⟨hk, hx⟩⟩

end Concat

/-! ### The last place -/

namespace IsLast

variable {P Q : Nat → Binary64 → Prop} {value : Option Binary64}

theorem congr (h : ∀ k x, Q k x ↔ P k x) (hP : IsLast P value) : IsLast Q value := by
  have hQP : Q = P := funext fun k => funext fun x => propext (h k x)
  rwa [hQP]

/-- A place after all others is the last. -/
theorem concat (place : Nat) {x : Binary64} (hnew : ∀ k y, Q k y ↔ P k y ∨ k = place ∧ y = x)
    (hbefore : ∀ k y, P k y → k ≤ place) : IsLast Q (some x) := by
  refine ⟨place, (hnew place x).mpr (Or.inr ⟨rfl, rfl⟩), fun j y hy => ?_⟩
  rcases (hnew j y).mp hy with hP | ⟨rfl, -⟩
  · exact hbefore j y hP
  · exact Nat.le_refl _

theorem isSome {k : Nat} {x : Binary64} (h : IsLast P value) (hk : P k x) :
    value.isSome = true := by
  cases value with
  | none => exact absurd hk (h k x)
  | some y => rfl

/-- The value is determined if each place has one value only. -/
theorem unique {other : Option Binary64} (hone : ∀ k x y, P k x → P k y → x = y)
    (h : IsLast P value) (hother : IsLast P other) : value = other := by
  cases value with
  | none =>
    cases other with
    | none => rfl
    | some y =>
      obtain ⟨k, hk, -⟩ := hother
      exact absurd hk (h k y)
  | some x =>
    obtain ⟨k, hk, hlast⟩ := h
    cases other with
    | none => exact absurd hk (hother k x)
    | some y =>
      obtain ⟨j, hj, hlast'⟩ := hother
      have hkj : k = j := Nat.le_antisymm (hlast' k x hk) (hlast j y hj)
      subst hkj
      rw [hone k x y hk hj]

end IsLast

/-! ### Drafts that describe what has been read -/

namespace Draft

/-- The draft says what the fields read so far say, and awaits what may follow them. -/
structure Describes (draft : Draft) (fs : List Text) : Prop where
  inputs : ∀ i, i ∈ draft.line.inputs ↔ ∃ f ∈ fs, Names f i
  angle : IsLast (AngleAt fs) draft.line.angle?
  magnitude : IsLast (MagnitudeAt fs) draft.line.magnitude?
  awaits_angle : draft.awaits = .angle ↔ ∃ j, j + 1 = fs.length ∧ FeatherAt fs j
  awaits_magnitude : draft.awaits = .magnitude ↔ ∃ j y, j + 2 = fs.length ∧ AngleAt fs j y

namespace Describes

variable {draft after : Draft} {fs : List Text} {f : Text} {i : Input} {x : Binary64}

/-- A number may come next exactly if the draft awaits one. -/
theorem takesNumber_iff (h : Describes draft fs) :
    TakesNumber fs fs.length ↔ draft.awaits = .angle ∨ draft.awaits = .magnitude := by
  rw [h.awaits_angle, h.awaits_magnitude, TakesNumber]

/-- The next field is read exactly if it fits in. -/
theorem read_ok_iff (h : Describes draft fs) :
    (∃ after, draft.read f = .ok after) ↔ Fits fs fs.length f := by
  simp only [read_eq_ok_iff, Fits, h.takesNumber_iff]
  constructor
  · rintro ⟨after, ⟨i, hi, -⟩ | ⟨x, hx, hawaits, -⟩ | ⟨x, hx, hawaits, -⟩⟩
    · exact Or.inl ⟨i, hi⟩
    · exact Or.inr ⟨⟨x, hx⟩, Or.inl hawaits⟩
    · exact Or.inr ⟨⟨x, hx⟩, Or.inr hawaits⟩
  · rintro (⟨i, hi⟩ | ⟨⟨x, hx⟩, hawaits | hawaits⟩)
    · exact ⟨_, Or.inl ⟨i, hi, rfl⟩⟩
    · exact ⟨_, Or.inr (Or.inl ⟨x, hx, hawaits, rfl⟩)⟩
    · exact ⟨_, Or.inr (Or.inr ⟨x, hx, hawaits, rfl⟩)⟩

/-- A letter is one more input; after that of feather an angle may come. -/
theorem concat_letter (h : Describes draft fs) (hi : Names f i) :
    Describes ⟨draft.line.addInput i, if i = .feather then .angle else .nothing⟩ (fs ++ [f]) := by
  have hnumber : ∀ x, ¬ IsNumber f x := fun x hx => not_names_of_isNumber hx i hi
  refine ⟨?_, ?_, ?_, ?_, ?_⟩
  · intro j
    have hnames : Names f j ↔ i = j := ⟨names_unique hi, fun hij => hij ▸ hi⟩
    rw [addInput, InputSet.mem_insert, h.inputs]
    simp [or_and_right, exists_or, hnames]
  · exact IsLast.congr (fun k x => by simp [angleAt_concat, hnumber]) h.angle
  · exact IsLast.congr (fun k x => by simp [magnitudeAt_concat, hnumber]) h.magnitude
  · have hfeather : Names f .feather ↔ i = .feather := ⟨names_unique hi, fun hij => hij ▸ hi⟩
    simp only [List.length_append, List.length_singleton, featherAt_concat, hfeather]
    constructor
    · intro hawaits
      refine ⟨fs.length, rfl, Or.inr ⟨rfl, ?_⟩⟩
      split at hawaits
      · assumption
      · cases hawaits
    · rintro ⟨j, hj, hat | ⟨-, rfl⟩⟩
      · exact absurd hat.lt (by omega)
      · rfl
  · simp only [List.length_append, List.length_singleton, angleAt_concat, hnumber, and_false,
      or_false]
    constructor
    · intro hawaits
      split at hawaits <;> cases hawaits
    · rintro ⟨j, y, hj, hat⟩
      exact absurd hat.2.lt (by omega)

theorem feather_mem (h : Describes draft fs) {j : Nat} (hj : FeatherAt fs j) :
    Input.feather ∈ draft.line.inputs := by
  obtain ⟨g, hg, hname⟩ := hj
  exact (h.inputs _).mpr ⟨g, List.mem_of_getElem? hg, hname⟩

/-- A number at the end is not the letter of feather. -/
theorem not_featherAt_concat_number (hx : IsNumber f x) {k : Nat}
    (hk : k + 1 = (fs ++ [f]).length) : ¬ FeatherAt (fs ++ [f]) k := by
  intro hat
  rcases featherAt_concat.mp hat with hat | ⟨-, hname⟩
  · have hlt := hat.lt
    rw [List.length_append, List.length_singleton] at hk
    omega
  · exact not_names_of_isNumber hx _ hname

/-- A number is no input. -/
theorem exists_names_concat (hx : IsNumber f x) :
    (∃ g ∈ fs ++ [f], Names g i) ↔ ∃ g ∈ fs, Names g i := by
  simp [or_and_right, exists_or, not_names_of_isNumber hx]

/-- A number is not awaited as angle and magnitude at once. -/
theorem not_angleAt_of_awaits_angle (h : Describes draft fs) (hawaits : draft.awaits = .angle)
    {k : Nat} (hk : k + 2 = fs.length) (y : Binary64) : ¬ AngleAt fs k y := by
  intro hat
  have hmagnitude := h.awaits_magnitude.mpr ⟨k, y, hk, hat⟩
  rw [hawaits] at hmagnitude
  cases hmagnitude

theorem not_featherAt_of_awaits_magnitude (h : Describes draft fs)
    (hawaits : draft.awaits = .magnitude) {k : Nat} (hk : k + 1 = fs.length) :
    ¬ FeatherAt fs k := by
  intro hat
  have hangle := h.awaits_angle.mpr ⟨k, hk, hat⟩
  rw [hawaits] at hangle
  cases hangle

/-- A number after feather is the angle, and a magnitude may come. -/
theorem concat_angle (h : Describes draft fs) (hx : IsNumber f x)
    (hawaits : draft.awaits = .angle) :
    Describes ⟨draft.line.withAngle x, .magnitude⟩ (fs ++ [f]) := by
  obtain ⟨j, hj, hfeather⟩ := h.awaits_angle.mp hawaits
  refine ⟨?_, ?_, ?_, ?_, ?_⟩
  · intro i
    rw [exists_names_concat hx, ← h.inputs, withAngle, withAim, InputSet.mem_insert]
    exact or_iff_left_of_imp fun hi => hi ▸ h.feather_mem hfeather
  · refine IsLast.concat j (P := AngleAt fs) ?_ ?_
    · intro k y
      rw [angleAt_concat]
      refine or_congr_right ⟨fun ⟨hk, _, hy⟩ => ⟨by omega, isNumber_unique hy hx⟩, ?_⟩
      rintro ⟨rfl, rfl⟩
      exact ⟨hj, hfeather, hx⟩
    · intro k y hat
      have := hat.2.lt
      omega
  · refine IsLast.congr (fun k y => ?_) h.magnitude
    rw [magnitudeAt_concat]
    refine or_iff_left ?_
    rintro ⟨hk, ⟨z, hat⟩, -⟩
    exact h.not_angleAt_of_awaits_angle hawaits hk z hat
  · constructor
    · intro hnothing
      cases hnothing
    · rintro ⟨k, hk, hat⟩
      exact absurd hat (not_featherAt_concat_number hx hk)
  · refine ⟨fun _ => ⟨j, x, by simp; omega, angleAt_concat.mpr (Or.inr ⟨hj, hfeather, hx⟩)⟩,
      fun _ => rfl⟩

/-- A number after feather and its angle is the magnitude, and no other number may come. -/
theorem concat_magnitude (h : Describes draft fs) (hx : IsNumber f x)
    (hawaits : draft.awaits = .magnitude) :
    Describes ⟨draft.line.withMagnitude x, .nothing⟩ (fs ++ [f]) := by
  obtain ⟨j, z, hj, hangle⟩ := h.awaits_magnitude.mp hawaits
  refine ⟨?_, ?_, ?_, ?_, ?_⟩
  · intro i
    rw [exists_names_concat hx]
    exact h.inputs i
  · rw [angle?_withMagnitude]
    refine IsLast.congr (fun k y => ?_) h.angle
    rw [angleAt_concat]
    refine or_iff_left ?_
    rintro ⟨hk, hat, -⟩
    exact h.not_featherAt_of_awaits_magnitude hawaits hk hat
  · obtain ⟨a, ha⟩ := Option.isSome_iff_exists.mp (h.angle.isSome hangle)
    rw [magnitude?_withMagnitude, ha, Option.map_some]
    refine IsLast.concat j (P := MagnitudeAt fs) ?_ ?_
    · intro k y
      rw [magnitudeAt_concat]
      refine or_congr_right ⟨fun ⟨hk, _, hy⟩ => ⟨by omega, isNumber_unique hy hx⟩, ?_⟩
      rintro ⟨rfl, rfl⟩
      exact ⟨hj, ⟨z, hangle⟩, hx⟩
    · intro k y hat
      have := hat.2.lt
      omega
  · constructor
    · intro hnothing
      cases hnothing
    · rintro ⟨k, hk, hat⟩
      exact absurd hat (not_featherAt_concat_number hx hk)
  · constructor
    · intro hnothing
      cases hnothing
    · rintro ⟨k, y, hk, hat⟩
      rw [List.length_append, List.length_singleton] at hk
      rcases angleAt_concat.mp hat with hat | ⟨hk', hat, -⟩
      · exact absurd hat.2.lt (by omega)
      · exact absurd hat (h.not_featherAt_of_awaits_magnitude hawaits hk')

/-- **One field more.** Reading it keeps describing what has been read. -/
theorem read (h : Describes draft fs) (hread : draft.read f = .ok after) :
    Describes after (fs ++ [f]) := by
  rcases read_eq_ok_iff.mp hread with ⟨i, hi, rfl⟩ | ⟨x, hx, hawaits, rfl⟩ | ⟨x, hx, hawaits, rfl⟩
  · exact h.concat_letter hi
  · exact h.concat_angle hx hawaits
  · exact h.concat_magnitude hx hawaits

/-- **All fields.** Reading them keeps describing what has been read. -/
theorem foldlM_read {rest : List Text} (h : Describes draft fs)
    (hread : rest.foldlM Draft.read draft = .ok after) : Describes after (fs ++ rest) := by
  induction rest generalizing draft fs with
  | nil =>
    cases hread
    rwa [List.append_nil]
  | cons f rest ih =>
    rw [List.foldlM_cons, Outcome.bind_eq_ok_iff] at hread
    obtain ⟨next, hnext, hrest⟩ := hread
    rw [List.append_cons]
    exact ih (h.read hnext) hrest

/-- Reading goes on to the end exactly if every field fits in where it stands. -/
theorem foldlM_read_ok_iff {rest : List Text} (h : Describes draft fs) :
    (∃ after, rest.foldlM Draft.read draft = .ok after) ↔
      ∀ k f, fs.length ≤ k → (fs ++ rest)[k]? = some f → Fits (fs ++ rest) k f := by
  induction rest generalizing draft fs with
  | nil =>
    constructor
    · intro _ k f hk hf
      rw [List.append_nil, List.getElem?_eq_none hk] at hf
      cases hf
    · intro _
      exact ⟨draft, rfl⟩
  | cons f rest ih =>
    simp only [List.foldlM_cons, Outcome.bind_eq_ok_iff]
    constructor
    · rintro ⟨after, next, hnext, hrest⟩ k g hk hg
      rcases Nat.eq_or_lt_of_le hk with rfl | hlt
      · have hfg : f = g := by simpa using hg
        subst hfg
        exact (fits_append (Nat.le_refl _)).mpr (h.read_ok_iff.mp ⟨next, hnext⟩)
      · rw [List.append_cons] at hg ⊢
        exact (ih (h.read hnext)).mp ⟨after, hrest⟩ k g (by simpa [Nat.succ_le_iff] using hlt) hg
    · intro hfits
      have hf : Fits fs fs.length f :=
        (fits_append (Nat.le_refl _)).mp (hfits fs.length f (Nat.le_refl _) (by simp))
      obtain ⟨next, hnext⟩ := h.read_ok_iff.mpr hf
      obtain ⟨after, hrest⟩ := (ih (h.read hnext)).mpr fun k g hk hg => by
        rw [← List.append_cons] at hg ⊢
        exact hfits k g (by simp at hk; omega) hg
      exact ⟨after, next, hnext, hrest⟩

end Describes

/-- Reading begins with what the frame count says. -/
theorem describes_start (columns frames : Nat) {width : FrameWidth} {first : Text}
    (h : IsFrames width first) : Describes (.start columns frames) [first] := by
  have hletter := not_names_of_isFrames h
  have hfeather : ∀ k, ¬ FeatherAt [first] k := by
    rintro k hat
    have hk : k = 0 := by
      have := hat.lt
      simpa using this
    subst hk
    obtain ⟨f, hf, hname⟩ := hat
    cases hf
    exact hletter _ hname
  refine ⟨?_, ?_, ?_, ?_, ?_⟩
  · intro i
    simp [start, ofFrames, withWidth, InputSet.mem_iff, hletter]
  · intro k x hat
    exact hfeather k hat.1
  · rintro k x ⟨⟨y, hangle⟩, -⟩
    exact hfeather k hangle.1
  · constructor
    · intro hnothing
      cases hnothing
    · rintro ⟨j, -, hat⟩
      exact absurd hat (hfeather j)
  · constructor
    · intro hnothing
      cases hnothing
    · rintro ⟨j, y, -, hat⟩
      exact absurd hat.1 (hfeather j)

end Draft

/-! ### Whole lines -/

/-- What fields mean is one line only. -/
theorem Means.unique {width : FrameWidth} {fs : List Text} {line other : ActionLine}
    (h : Means width fs line) (hother : Means width fs other) : line = other := by
  have hframes : line.frames = other.frames := by
    obtain ⟨first, hfirst, hline⟩ := h.frames
    obtain ⟨_, hsame, hother⟩ := hother.frames
    rw [hfirst] at hsame
    cases hsame
    rw [hline, hother]
  have hinputs : line.inputs = other.inputs := by
    refine InputSet.eq_of_has_eq h.known hother.known fun i => Bool.eq_iff_iff.mpr ?_
    rw [← InputSet.mem_iff, ← InputSet.mem_iff, h.inputs, hother.inputs]
  have hnumber : ∀ k x y, NumberAt fs k x → NumberAt fs k y → x = y := by
    rintro k x y ⟨f, hf, hx⟩ ⟨_, hg, hy⟩
    rw [hf] at hg
    cases hg
    exact isNumber_unique hx hy
  have haim : line.aim = other.aim :=
    aim_eq_of_eq (h.angle.unique (fun k x y hx hy => hnumber _ x y hx.2 hy.2) hother.angle)
      (h.magnitude.unique (fun k x y hx hy => hnumber _ x y hx.2 hy.2) hother.magnitude)
  exact ActionLine.ext hframes hinputs haim (h.width_eq.trans hother.width_eq.symm)

variable {columns : Nat} {text : Text} {line : ActionLine}

theorem means_of_parse (h : parse columns text = .ok line) :
    Means (.clamp columns) (fields text) line := by
  obtain ⟨hwidth, first, hhead, -, hframes⟩ := frames_width_of_parse h
  obtain ⟨-, first', rest, awaits, hfields, hfirst, hread⟩ := parse_eq_ok_iff.mp h
  have hdescribes := (Draft.describes_start columns _ hfirst).foldlM_read hread
  rw [List.singleton_append, ← hfields] at hdescribes
  exact ⟨hwidth, ⟨first, by rwa [List.head?_eq_getElem?] at hhead, hframes⟩,
    (expressible_of_parse h).known, hdescribes.inputs, hdescribes.angle, hdescribes.magnitude⟩

/-- The lines that are read are the grammatical ones. -/
theorem exists_parse_iff : (∃ line, parse columns text = .ok line) ↔
    text.trim ≠ [] ∧ Grammatical (.clamp columns) (fields text) := by
  simp only [parse_eq_ok_iff]
  constructor
  · rintro ⟨line, htrim, first, rest, awaits, hfields, hfirst, hread⟩
    have hfits := (Draft.describes_start columns _ hfirst).foldlM_read_ok_iff.mp ⟨_, hread⟩
    rw [List.singleton_append, ← hfields] at hfits
    exact ⟨htrim, ⟨first, by rw [hfields]; rfl, hfirst⟩, hfits⟩
  · rintro ⟨htrim, ⟨first, hhead, hfirst⟩, hfits⟩
    obtain ⟨_, rest, hfields⟩ : ∃ f rest, fields text = f :: rest :=
      List.exists_cons_of_ne_nil fun hnil => by rw [hnil] at hhead; cases hhead
    rw [hfields] at hhead hfits
    cases hhead
    obtain ⟨⟨line, awaits⟩, hread⟩ :=
      (Draft.describes_start columns (Decimal.digitsValue first)
        hfirst).foldlM_read_ok_iff.mpr hfits
    exact ⟨line, htrim, first, rest, awaits, hfields, hfirst, hread⟩

/-- A frame count of at most nine digits stays below its power of ten, and fits 32 bits. -/
theorem frames_lt_of_parse (h : parse columns text = .ok line) :
    line.frames < 10 ^ (FrameWidth.clamp columns).columns ∧ line.frames < 2 ^ 32 := by
  obtain ⟨-, first, -, ⟨-, hdigits, hlength⟩, hframes⟩ := frames_width_of_parse h
  have hpow : line.frames < 10 ^ (FrameWidth.clamp columns).columns := by
    rw [hframes]
    exact Nat.lt_of_lt_of_le (Decimal.digitsValue_lt hdigits)
      (Nat.pow_le_pow_right (by decide) hlength)
  refine ⟨hpow, Nat.lt_of_lt_of_le hpow ?_⟩
  calc 10 ^ (FrameWidth.clamp columns).columns ≤ 10 ^ 9 :=
        Nat.pow_le_pow_right (by decide) (FrameWidth.clamp columns).le_nine
    _ ≤ 2 ^ 32 := by decide

/-- **The grammar of action lines.** A text is read exactly if its fields are grammatical, and the
line that is read is the one line that they mean: its frame count has at most as many digits as
the field has columns, and no magnitude stands without an angle. -/
theorem parse_ok_iff_grammatical (columns : Nat) (text : Text) :
    ((∃ line, parse columns text = .ok line) ↔
        text.trim ≠ [] ∧ Grammatical (.clamp columns) (fields text)) ∧
      (∀ line, parse columns text = .ok line ↔
        (text.trim ≠ [] ∧ Grammatical (.clamp columns) (fields text)) ∧
          Means (.clamp columns) (fields text) line) ∧
      ∀ line, parse columns text = .ok line →
        line.frames < 10 ^ (FrameWidth.clamp columns).columns ∧ line.frames < 2 ^ 32 ∧
          (line.magnitude?.isSome = true → line.angle?.isSome = true) := by
  refine ⟨exists_parse_iff, ?_, ?_⟩
  · intro line
    constructor
    · intro h
      exact ⟨exists_parse_iff.mp ⟨line, h⟩, means_of_parse h⟩
    · rintro ⟨haccepted, hmeans⟩
      obtain ⟨other, hother⟩ := exists_parse_iff.mpr haccepted
      rwa [hmeans.unique (means_of_parse hother)]
  · intro line h
    refine ⟨(frames_lt_of_parse h).1, (frames_lt_of_parse h).2, ?_⟩
    intro hmagnitude
    rw [magnitude?, Option.isSome_bind] at hmagnitude
    rw [angle?, Option.isSome_map]
    exact Option.isSome_of_any hmagnitude

/-- A line that aims twice: the angle of the later feather counts, and the only magnitude. -/
theorem grammatical_of_aiming_twice :
    ∃ line, parse 4 " 20,f,.5,-1,r,F,+2".toList = .ok line ∧
      Grammatical (.clamp 4) (fields " 20,f,.5,-1,r,F,+2".toList) ∧
      Means (.clamp 4) (fields " 20,f,.5,-1,r,F,+2".toList) line ∧
      line.frames < 10 ^ 4 ∧ (line.magnitude?.isSome = true → line.angle?.isSome = true) := by
  obtain ⟨line, hread⟩ : ∃ line, parse 4 " 20,f,.5,-1,r,F,+2".toList = .ok line :=
    exists_parse_of_isSome (by decide +kernel)
  obtain ⟨haccepted, hmeans⟩ := ((parse_ok_iff_grammatical 4 _).2.1 line).mp hread
  obtain ⟨hframes, -, haim⟩ := (parse_ok_iff_grammatical 4 _).2.2 line hread
  exact ⟨line, hread, haccepted.2, hmeans, hframes, haim⟩

end ActionLine

end FrameScript
