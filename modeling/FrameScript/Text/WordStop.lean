import FrameScript.Text.Alphanumeric
import FrameScript.Text.Blank

/-!
# Word stops of a line

A word is a run of letters, digits and underscores or a run of other visible characters; blanks
separate words and belong to none. A caret that moves by words stops at the start of every word,
at column 1 and at the slot after the last character. Columns are counted from 1.
-/

namespace FrameScript.Text

/-- The classes of characters that words are runs of. -/
inductive WordClass
  | word
  | punctuation
  | blank
deriving DecidableEq, Repr

/-- The class of a character. -/
def WordClass.of (c : Char) : WordClass :=
  if isBlank c then .blank
  else if isAlphanumeric c || c = '_' then .word
  else .punctuation

/-- Whether a word begins at a column: the character there is visible, and the one before it is of
another class or missing. -/
def beginsWord (t : Text) (column : Nat) : Bool :=
  match t[column - 1]? with
  | none => false
  | some c =>
    let cls := WordClass.of c
    cls ≠ .blank && (column = 1 || t[column - 2]?.map WordClass.of ≠ some cls)

/-- The first word stop right of a column; `none` at the end of the line and beyond. -/
def nextWordStop? (t : Text) (column : Nat) : Option Nat :=
  let stop := t.length + 1
  if stop ≤ column then none
  else
    let first := max column 1 + 1
    some (((List.range' first (stop - first)).find? (beginsWord t)).getD stop)

/-- The last word stop left of a column; `none` at column 1 and before. A column beyond the end
of the line counts as the end. -/
def prevWordStop? (t : Text) (column : Nat) : Option Nat :=
  if column ≤ 1 then none
  else
    let column := min column (t.length + 1)
    some (((List.range' 2 (column - 2)).reverse.find? (beginsWord t)).getD 1)

end FrameScript.Text
