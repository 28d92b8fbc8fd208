import FrameScript.InputSet

/-!
# Members of sets of inputs

How many inputs a set holds and in which order they stand. A set without meaningless flags has as
many flags as members, and feather, if it is a member, is the last.

## Main definitions

* `InputSet.buttons` — the members other than feather

## Main results

* `InputSet.length_members_le_size`, `InputSet.size_eq_length_members` — the size of a set, and of
  one without meaningless flags
* `InputSet.position?_eq_some_iff`, `InputSet.position?_eq_none_iff` — the places of the members
* `InputSet.eq_of_mem_iff` — sets without meaningless flags are equal if they have the same members
* `InputSet.members_sdiff_single` — to take an input out leaves the order of the others
* `InputSet.members_eq` — feather comes after all other members
* `InputSet.position?_feather` — and so its place is known from the size
-/

namespace FrameScript

namespace InputSet

variable {s : InputSet}

/-! ### Size -/

/-- The flags are those of the members and those that mean nothing. -/
theorem size_eq (s : InputSet) :
    s.size = s.members.length + (List.range' 17 15).countP s.flags.getLsbD := by
  have hrange : List.range 32 = Input.all.map Input.index ++ List.range' 17 15 := by decide
  rw [size, hrange, List.countP_append, List.countP_map, List.countP_eq_length_filter]
  rfl

theorem length_members_le_size (s : InputSet) : s.members.length ≤ s.size := by
  rw [size_eq]
  exact Nat.le_add_right ..

/-- Each flag means an input, so counting flags is counting members. -/
theorem size_eq_length_members (h : s.isKnown = true) : s.size = s.members.length := by
  have hrest : (List.range' 17 15).countP s.flags.getLsbD = 0 := by
    refine List.countP_eq_zero.mpr ?_
    intro k hk
    rw [getLsbD_of_isKnown h (List.mem_range'_1.mp hk).1]
    exact Bool.false_ne_true
  rw [size_eq, hrest, Nat.add_zero]

/-! ### Places -/

/-- A member has one place only. -/
theorem position?_eq_some_iff {i : Input} {k : Nat} :
    s.position? i = some k ↔ s.members[k]? = some i := by
  rw [position?, List.findIdx?_eq_some_iff_getElem, List.getElem?_eq_some_iff]
  simp only [decide_eq_true_eq]
  refine exists_congr fun hk => and_iff_left_of_imp ?_
  rintro rfl j hj hsame
  exact List.pairwise_iff_getElem.mp s.nodup_members j k (Nat.lt_trans hj hk) hk hj hsame

theorem position?_eq_none_iff {i : Input} : s.position? i = none ↔ i ∉ s := by
  simp only [position?, List.findIdx?_eq_none_iff, mem_members, decide_eq_false_iff_not]
  exact ⟨fun h hi => h i hi rfl, fun h j hj hji => h (hji ▸ hj)⟩

/-! ### Feather comes last -/

/-- The members other than feather, in canonical order. -/
def buttons (s : InputSet) : List Input := Input.all.dropLast.filter s.has

theorem ne_feather_of_mem_buttons {i : Input} (h : i ∈ s.buttons) : i ≠ .feather := by
  have hall : ∀ j ∈ Input.all.dropLast, j ≠ .feather := by decide
  exact hall i (List.mem_filter.mp h).1

theorem members_eq (s : InputSet) :
    s.members = s.buttons ++ if .feather ∈ s then [.feather] else [] := by
  rw [members, show Input.all = Input.all.dropLast ++ [.feather] from rfl, List.filter_append,
    ← buttons, List.filter_cons, List.filter_nil]
  rfl

theorem length_members (s : InputSet) :
    s.members.length = s.buttons.length + if .feather ∈ s then 1 else 0 := by
  rw [members_eq, List.length_append]
  split <;> rfl

theorem position?_feather (s : InputSet) :
    s.position? .feather = if .feather ∈ s then some s.buttons.length else none := by
  have hbuttons : s.buttons.findIdx? (· = .feather) = none :=
    List.findIdx?_eq_none_iff.mpr fun i hi => decide_eq_false (ne_feather_of_mem_buttons hi)
  rw [position?, members_eq, List.findIdx?_append, hbuttons]
  split <;> simp

/-- Feather stands at no other place than the one after all buttons. -/
theorem getElem?_members_eq_feather_iff {k : Nat} :
    s.members[k]? = some .feather ↔ .feather ∈ s ∧ k = s.buttons.length := by
  rw [members_eq]
  rcases Nat.lt_or_ge k s.buttons.length with hlt | hge
  · rw [List.getElem?_append_left hlt]
    constructor
    · intro hk
      exact absurd rfl (ne_feather_of_mem_buttons (List.mem_of_getElem? hk))
    · rintro ⟨-, rfl⟩
      exact absurd hlt (Nat.lt_irrefl _)
  · rw [List.getElem?_append_right hge]
    by_cases hfeather : Input.feather ∈ s
    · rw [if_pos hfeather, List.getElem?_singleton, and_iff_right hfeather]
      split
      · simp only [true_iff]
        omega
      · simp only [reduceCtorEq, false_iff]
        omega
    · rw [if_neg hfeather]
      simp [hfeather]

/-! ### Sets with the same members -/

@[simp] theorem mem_union {t : InputSet} {i : Input} : i ∈ s ∪ t ↔ i ∈ s ∨ i ∈ t := by
  rw [mem_iff, mem_iff, mem_iff, has_union, Bool.or_eq_true]

@[simp] theorem mem_inter {t : InputSet} {i : Input} : i ∈ s ∩ t ↔ i ∈ s ∧ i ∈ t := by
  rw [mem_iff, mem_iff, mem_iff, has_inter, Bool.and_eq_true]

@[simp] theorem not_mem_empty (i : Input) : i ∉ (∅ : InputSet) := by
  rw [mem_iff, has_empty]
  exact Bool.false_ne_true

@[simp] theorem mem_single {i j : Input} : j ∈ single i ↔ i = j := by
  rw [mem_iff, has_single, decide_eq_true_iff]

theorem eq_of_mem_iff {t : InputSet} (hs : s.isKnown = true) (ht : t.isKnown = true)
    (h : ∀ i, i ∈ s ↔ i ∈ t) : s = t :=
  eq_of_has_eq hs ht fun i => Bool.eq_iff_iff.mpr (h i)

theorem isKnown_inter {t : InputSet} (hs : s.isKnown = true) : (s ∩ t).isKnown = true := by
  have hflags : full.flags &&& s.flags = s.flags := of_decide_eq_true hs
  refine decide_eq_true ?_
  show full.flags &&& (s.flags &&& t.flags) = s.flags &&& t.flags
  rw [← BitVec.and_assoc, hflags]

/-! ### Taking an input out -/

@[simp] theorem mem_sdiff_single {i j : Input} : j ∈ s \ single i ↔ j ∈ s ∧ i ≠ j := by
  simp [mem_iff]

theorem isKnown_sdiff {t : InputSet} (hs : s.isKnown = true) : (s \ t).isKnown = true := by
  have hflags : full.flags &&& s.flags = s.flags := of_decide_eq_true hs
  refine decide_eq_true ?_
  show full.flags &&& (s.flags &&& ~~~t.flags) = s.flags &&& ~~~t.flags
  rw [← BitVec.and_assoc, hflags]

/-- The other members stay in their order. -/
theorem members_sdiff_single (s : InputSet) (i : Input) :
    (s \ single i).members = s.members.erase i := by
  rw [s.nodup_members.erase_eq_filter, members, members, List.filter_filter]
  refine List.filter_congr fun j _ => ?_
  rw [has_sdiff, has_single, Bool.and_comm, bne, Bool.beq_comm]
  rfl

/-! ### Sets of one input -/

theorem single_inj {i j : Input} : single i = single j ↔ i = j := by
  constructor
  · intro h
    have hj := has_single i j
    rw [h, has_single j j, decide_eq_true rfl] at hj
    exact of_decide_eq_true hj.symm
  · rintro rfl
    rfl

theorem isKnown_foldl_insert (inputs : List Input) {s : InputSet} (h : s.isKnown = true) :
    (inputs.foldl insert s).isKnown = true := by
  induction inputs generalizing s with
  | nil => exact h
  | cons i rest ih => exact ih (isKnown_insert h i)

theorem isKnown_ofList (inputs : List Input) : (ofList inputs).isKnown = true :=
  isKnown_foldl_insert inputs isKnown_empty

theorem isEmpty_single (i : Input) : (single i).isEmpty = false := by cases i <;> decide

end InputSet

end FrameScript
