import FrameScript.Input

/-!
# Sets of inputs

The inputs held on one frame, as a word of 32 flags: flag `k` stands for the `k`-th input of the
canonical order. Only the lowest 17 flags mean something, but a set given by its flags keeps the
others too, and operations that work on flags see them.

Membership is a flag test (`mem_iff`), and each operation is described by which inputs its result
has, so that proofs about sets need not look at the word. Sets without meaningless flags are
determined by their members (`eq_of_has_eq`).
-/

namespace FrameScript

/-- A set of inputs, held as flags. -/
structure InputSet where
  flags : BitVec 32
deriving DecidableEq, Repr

namespace InputSet

/-! ### Construction -/

instance : EmptyCollection InputSet := ⟨⟨0⟩⟩

instance : Inhabited InputSet := ⟨∅⟩

/-- The set of every input. -/
def full : InputSet := ⟨BitVec.ofNat 32 0x1FFFF⟩

/-- The set of one input. -/
def single (i : Input) : InputSet := ⟨BitVec.twoPow 32 i.index⟩

/-- The set with the given flags, meaningless ones included. -/
def ofFlags (flags : BitVec 32) : InputSet := ⟨flags⟩

/-- The set of the inputs whose flags are given. -/
def ofKnownFlags (flags : BitVec 32) : InputSet := ⟨flags &&& full.flags⟩

/-! ### Operations -/

instance : Union InputSet := ⟨fun s t => ⟨s.flags ||| t.flags⟩⟩

instance : Inter InputSet := ⟨fun s t => ⟨s.flags &&& t.flags⟩⟩

instance : SDiff InputSet := ⟨fun s t => ⟨s.flags &&& ~~~t.flags⟩⟩

/-- The flags that exactly one of two sets has. -/
def symmDiff (s t : InputSet) : InputSet := ⟨s.flags ^^^ t.flags⟩

/-- The inputs that a set does not hold. -/
def complement (s : InputSet) : InputSet := ofKnownFlags (~~~s.flags)

/-- The set with one input more. -/
def insert (s : InputSet) (i : Input) : InputSet := s ∪ single i

/-- The set of the inputs in a list. -/
def ofList (inputs : List Input) : InputSet := inputs.foldl insert ∅

/-! ### Questions -/

/-- Whether a set holds an input. -/
def has (s : InputSet) (i : Input) : Bool := s.flags.getLsbD i.index

instance : Membership Input InputSet := ⟨fun s i => s.has i = true⟩

instance (i : Input) (s : InputSet) : Decidable (i ∈ s) := inferInstanceAs (Decidable (_ = true))

/-- Whether one set has all flags of another. -/
def contains (s t : InputSet) : Bool := s.flags &&& t.flags = t.flags

/-- Whether two sets share a flag. -/
def intersects (s t : InputSet) : Bool := s.flags &&& t.flags ≠ 0

/-- Whether no flag is set. -/
def isEmpty (s : InputSet) : Bool := s.flags = 0

/-- Whether every flag that is set means an input. -/
def isKnown (s : InputSet) : Bool := full.contains s

/-- The members, in canonical order. -/
def members (s : InputSet) : List Input := Input.all.filter s.has

/-- The number of flags that are set. -/
def size (s : InputSet) : Nat := (List.range 32).countP s.flags.getLsbD

/-- The member of a set of one flag; `none` for other sets, and if that flag means nothing. -/
def only? (s : InputSet) : Option Input := if s.size = 1 then s.members.head? else none

/-- The place of an input among the members. -/
def position? (s : InputSet) (i : Input) : Option Nat := s.members.findIdx? (· = i)

/-- The letters of the members, in canonical order. -/
def letters (s : InputSet) : List Char := s.members.map Input.letter

/-! ### Flags of the operations -/

theorem mem_iff {s : InputSet} {i : Input} : i ∈ s ↔ s.has i = true := Iff.rfl

@[simp] theorem has_empty (i : Input) : (∅ : InputSet).has i = false := by
  show (0 : BitVec 32).getLsbD i.index = false
  simp

@[simp] theorem has_union (s t : InputSet) (i : Input) : (s ∪ t).has i = (s.has i || t.has i) :=
  BitVec.getLsbD_or

@[simp] theorem has_inter (s t : InputSet) (i : Input) : (s ∩ t).has i = (s.has i && t.has i) :=
  BitVec.getLsbD_and

@[simp] theorem has_single (i j : Input) : (single i).has j = decide (i = j) := by
  cases i <;> cases j <;> decide

@[simp] theorem has_insert (s : InputSet) (i j : Input) :
    (s.insert i).has j = (s.has j || decide (i = j)) := by
  simp [insert]

@[simp] theorem mem_insert {s : InputSet} {i j : Input} : j ∈ s.insert i ↔ j ∈ s ∨ i = j := by
  rw [mem_iff, mem_iff, has_insert, Bool.or_eq_true, decide_eq_true_iff]

@[simp] theorem has_full (i : Input) : full.has i = true := by cases i <;> decide

@[simp] theorem has_ofKnownFlags (flags : BitVec 32) (i : Input) :
    (ofKnownFlags flags).has i = flags.getLsbD i.index := by
  show (flags &&& full.flags).getLsbD i.index = _
  rw [BitVec.getLsbD_and, show full.flags.getLsbD i.index = true from has_full i, Bool.and_true]

theorem getLsbD_not_index (flags : BitVec 32) (i : Input) :
    (~~~flags).getLsbD i.index = !flags.getLsbD i.index := by
  have hlt : i.index < 32 := Nat.lt_of_lt_of_le i.index_lt (by decide)
  rw [BitVec.getLsbD_not, decide_eq_true hlt, Bool.true_and]

@[simp] theorem has_sdiff (s t : InputSet) (i : Input) :
    (s \ t).has i = (s.has i && !t.has i) := by
  show (s.flags &&& ~~~t.flags).getLsbD i.index = _
  rw [BitVec.getLsbD_and, getLsbD_not_index]
  rfl

@[simp] theorem has_symmDiff (s t : InputSet) (i : Input) :
    (s.symmDiff t).has i = (s.has i ^^ t.has i) :=
  BitVec.getLsbD_xor

@[simp] theorem has_complement (s : InputSet) (i : Input) : s.complement.has i = !s.has i := by
  rw [complement, has_ofKnownFlags, getLsbD_not_index]
  rfl

/-! ### Members -/

theorem nodup_members (s : InputSet) : s.members.Nodup :=
  Input.nodup_all.sublist List.filter_sublist

@[simp] theorem mem_members {s : InputSet} {i : Input} : i ∈ s.members ↔ i ∈ s := by
  simp [members, Input.mem_all, mem_iff]

theorem has_foldl_insert (inputs : List Input) (s : InputSet) (i : Input) :
    (inputs.foldl insert s).has i = (s.has i || decide (i ∈ inputs)) := by
  induction inputs generalizing s with
  | nil => simp
  | cons j rest ih => simp [ih, eq_comm (a := j), Bool.or_assoc]

@[simp] theorem mem_ofList {inputs : List Input} {i : Input} : i ∈ ofList inputs ↔ i ∈ inputs := by
  simp [mem_iff, ofList, has_foldl_insert]

/-! ### Meaningless flags -/

theorem isKnown_single (i : Input) : (single i).isKnown = true := by cases i <;> decide

theorem isKnown_union {s t : InputSet} (hs : s.isKnown = true) (ht : t.isKnown = true) :
    (s ∪ t).isKnown = true := by
  have hs' : full.flags &&& s.flags = s.flags := of_decide_eq_true hs
  have ht' : full.flags &&& t.flags = t.flags := of_decide_eq_true ht
  refine decide_eq_true ?_
  show full.flags &&& (s.flags ||| t.flags) = s.flags ||| t.flags
  rw [BitVec.and_or_distrib_left, hs', ht']

theorem isKnown_insert {s : InputSet} (hs : s.isKnown = true) (i : Input) :
    (s.insert i).isKnown = true :=
  isKnown_union hs (isKnown_single i)

theorem isKnown_empty : (∅ : InputSet).isKnown = true := by decide

/-- A set of inputs has none of the meaningless flags. -/
theorem getLsbD_of_isKnown {s : InputSet} (h : s.isKnown = true) {k : Nat} (hk : 17 ≤ k) :
    s.flags.getLsbD k = false := by
  have hflags : full.flags &&& s.flags = s.flags := of_decide_eq_true h
  have hbit : Nat.testBit 0x1FFFF k = decide (k < 17) := Nat.testBit_two_pow_sub_one 17 k
  rw [← hflags, BitVec.getLsbD_and, full, BitVec.getLsbD_ofNat, hbit,
    decide_eq_false (Nat.not_lt.2 hk), Bool.and_false, Bool.false_and]

/-- Two sets without meaningless flags are equal if they have the same members. -/
theorem eq_of_has_eq {s t : InputSet} (hs : s.isKnown = true) (ht : t.isKnown = true)
    (h : ∀ i, s.has i = t.has i) : s = t := by
  obtain ⟨a⟩ := s
  obtain ⟨b⟩ := t
  refine congrArg mk (BitVec.eq_of_getLsbD_eq fun k _ => ?_)
  rcases Nat.lt_or_ge k 17 with hk | hk
  · obtain ⟨i, rfl⟩ := Input.exists_index_eq hk
    exact h i
  · rw [getLsbD_of_isKnown hs hk, getLsbD_of_isKnown ht hk]

end InputSet

end FrameScript
