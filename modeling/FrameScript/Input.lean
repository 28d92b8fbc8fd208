/-!
# Inputs

The buttons that a frame of a script can hold, in their canonical order: a line lists its inputs
in this order, whatever order they were typed in. Each input is written as one letter. Aiming,
`feather`, comes last because angle and magnitude may follow its letter.

`ofLetter?_letter` says that a letter names its input, and `ofLetter?_eq_some_iff` that it names
no other and that case does not matter.
-/

namespace FrameScript

/-- An input held during a frame. -/
inductive Input
  | left
  | right
  | up
  | down
  | jump
  | jump2
  | dash
  | dash2
  | demoDash
  | demoDash2
  | confirm
  | start
  | restart
  | journal
  | grab
  | grab2
  | feather
deriving DecidableEq, Repr

namespace Input

/-- Every input, in canonical order. -/
def all : List Input :=
  [left, right, up, down, jump, jump2, dash, dash2, demoDash, demoDash2, confirm, start, restart,
    journal, grab, grab2, feather]

/-- The place of an input in the canonical order. -/
def index : Input → Nat := Input.ctorIdx

/-- The letter an input is written as. -/
def letter : Input → Char
  | left => 'L'
  | right => 'R'
  | up => 'U'
  | down => 'D'
  | jump => 'J'
  | jump2 => 'K'
  | dash => 'X'
  | dash2 => 'C'
  | demoDash => 'Z'
  | demoDash2 => 'V'
  | confirm => 'O'
  | start => 'S'
  | restart => 'Q'
  | journal => 'N'
  | grab => 'G'
  | grab2 => 'H'
  | feather => 'F'

/-- The input a letter stands for, in either case. -/
def ofLetter? (c : Char) : Option Input := all.find? (·.letter = c.toUpper)

theorem mem_all (i : Input) : i ∈ all := by cases i <;> decide

theorem nodup_all : all.Nodup := by decide

theorem getElem?_index_all (i : Input) : all[i.index]? = some i := by cases i <;> rfl

theorem index_lt (i : Input) : i.index < 17 := by cases i <;> decide

theorem index_injective {i j : Input} (h : i.index = j.index) : i = j := by
  have hi := getElem?_index_all i
  rw [h, getElem?_index_all j] at hi
  exact (Option.some.inj hi).symm

/-- Every place of the canonical order is taken. -/
theorem exists_index_eq {k : Nat} (h : k < 17) : ∃ i : Input, i.index = k := by
  have each : ∀ k : Fin 17, (all.get k).index = k.val := by decide
  exact ⟨_, each ⟨k, h⟩⟩

theorem letter_injective {i j : Input} (h : i.letter = j.letter) : i = j := by
  revert h
  cases i <;> cases j <;> decide

theorem ofLetter?_letter (i : Input) : ofLetter? i.letter = some i := by cases i <;> decide

theorem ofLetter?_eq_some_iff {c : Char} {i : Input} :
    ofLetter? c = some i ↔ c.toUpper = i.letter := by
  constructor
  · intro h
    have := List.find?_some h
    simpa [eq_comm] using this
  · intro h
    have hi := ofLetter?_letter i
    unfold ofLetter? at hi ⊢
    have hupper : i.letter.toUpper = i.letter := by cases i <;> decide
    rw [h]
    rwa [hupper] at hi

end Input

end FrameScript
