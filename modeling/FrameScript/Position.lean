/-!
# Positions in a document

A position is a line and a column, both counted from 1, where column `k` is the slot before the
`k`-th character. Beside them it carries two hints for a display that wraps lines: the column on
the screen and whether the caret stands at the end of a screen row.

The hints do not take part in comparisons. Two positions are in the same slot if line and column
agree, and positions are ordered by line, then column.
-/

namespace FrameScript

/-- A slot of a document, with hints for the display. -/
structure Position where
  line : Nat
  column : Nat
  /-- Column on the screen, counted from 0. -/
  visualColumn : Nat
  /-- The caret stands at the end of a screen row and not at the start of the next. -/
  atEndOfLine : Bool
deriving DecidableEq, Repr

namespace Position

/-! ### Construction -/

/-- The position of a slot in a line that does not wrap. -/
def of (line column : Nat) : Position := ⟨line, column, column - 1, false⟩

/-- The first slot of a document. -/
def start : Position := Position.of 1 1

instance : Inhabited Position := ⟨start⟩

/-- The same slot, at the end of its screen row. -/
def atEnd (p : Position) : Position := { p with atEndOfLine := true }

/-- The same slot with the hints of a line that does not wrap. -/
def rehint (p : Position) : Position := Position.of p.line p.column

/-- Another slot of the same line. -/
def withColumn (p : Position) (column : Nat) : Position := Position.of p.line column

/-! ### Comparison -/

/-- Whether two positions are the same slot. -/
def sameSlot (p q : Position) : Bool := p.line = q.line && p.column = q.column

/-- Positions compare by line, then column. -/
instance : Ord Position where
  compare p q := (compare p.line q.line).then (compare p.column q.column)

/-- One position is not after another. -/
def le (p q : Position) : Prop := p.line < q.line ∨ p.line = q.line ∧ p.column ≤ q.column

/-- One position is before another. -/
def lt (p q : Position) : Prop := p.line < q.line ∨ p.line = q.line ∧ p.column < q.column

instance : LE Position := ⟨le⟩

instance : LT Position := ⟨lt⟩

instance (p q : Position) : Decidable (p ≤ q) :=
  inferInstanceAs (Decidable (p.line < q.line ∨ p.line = q.line ∧ p.column ≤ q.column))

instance (p q : Position) : Decidable (p < q) :=
  inferInstanceAs (Decidable (p.line < q.line ∨ p.line = q.line ∧ p.column < q.column))

@[simp] theorem line_of (line column : Nat) : (Position.of line column).line = line := rfl

@[simp] theorem column_of (line column : Nat) : (Position.of line column).column = column := rfl

theorem of_inj {line column line' column' : Nat} :
    Position.of line column = .of line' column' ↔ line = line' ∧ column = column' := by
  refine ⟨fun h => ⟨congrArg Position.line h, congrArg Position.column h⟩, ?_⟩
  rintro ⟨rfl, rfl⟩
  rfl

theorem le_iff {p q : Position} :
    p ≤ q ↔ p.line < q.line ∨ p.line = q.line ∧ p.column ≤ q.column := Iff.rfl

theorem lt_iff {p q : Position} :
    p < q ↔ p.line < q.line ∨ p.line = q.line ∧ p.column < q.column := Iff.rfl

theorem sameSlot_iff {p q : Position} :
    p.sameSlot q = true ↔ p.line = q.line ∧ p.column = q.column := by
  simp [sameSlot]

theorem sameSlot_self (p : Position) : p.sameSlot p = true := sameSlot_iff.mpr ⟨rfl, rfl⟩

theorem sameSlot_trans {p q r : Position} (hpq : p.sameSlot q = true) (hqr : q.sameSlot r = true) :
    p.sameSlot r = true := by
  rw [sameSlot_iff] at *
  exact ⟨hpq.1.trans hqr.1, hpq.2.trans hqr.2⟩

theorem le_refl (p : Position) : p ≤ p := Or.inr ⟨rfl, Nat.le_refl _⟩

theorem le_total (p q : Position) : p ≤ q ∨ q ≤ p := by
  rw [le_iff, le_iff]
  omega

theorem le_of_lt {p q : Position} (h : p < q) : p ≤ q := by
  rw [lt_iff] at h
  rw [le_iff]
  omega

theorem not_le {p q : Position} : ¬p ≤ q ↔ q < p := by
  rw [le_iff, lt_iff]
  omega

/-! ### Text -/

/-- Line and column. -/
def display (p : Position) : String := s!"{p.line}:{p.column}"

/-- Line and column, marked as a position. -/
def debug (p : Position) : String := s!"Pos({p.display})"

end Position

end FrameScript
