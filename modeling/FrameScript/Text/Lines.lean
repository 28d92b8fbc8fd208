import FrameScript.Text.Basic

/-!
# Lines of a text

A line ends at a line feed, a carriage return, both in this order (one break), a vertical tab, a
form feed, U+0085, U+2028 or U+2029. A text that ends in a break has one more line, an empty one,
so every text has at least one line and every line but the last has a break.

The main statement is `flatMap_lines`: the lines with their breaks, one after the other, are the
text.
-/

namespace FrameScript.Text

/-- Whether a character ends a line. -/
def isBreak (c : Char) : Bool :=
  match c.toNat with
  | 0x0A | 0x0B | 0x0C | 0x0D | 0x85 | 0x2028 | 0x2029 => true
  | _ => false

/-- A line: its content, and the break that ends it, empty for the last line of a text. -/
structure Line where
  content : Text
  ending : Text
deriving DecidableEq, Repr

namespace Line

/-- The line with its break. -/
def toText (line : Line) : Text := line.content ++ line.ending

/-- The characters of the line, its break included. -/
def length (line : Line) : Nat := line.content.length + line.ending.length

theorem length_toText (line : Line) : line.toText.length = line.length := by
  simp [toText, length]

/-- The line with one more character in front. -/
def push (c : Char) (line : Line) : Line := { line with content := c :: line.content }

end Line

/-- The lines of a text. -/
def lines : Text → List Line
  | [] => [⟨[], []⟩]
  | '\r' :: '\n' :: rest => ⟨[], ['\r', '\n']⟩ :: lines rest
  | c :: rest =>
    if isBreak c then ⟨[], [c]⟩ :: lines rest else (lines rest).modifyHead (Line.push c)

theorem lines_ne_nil (t : Text) : lines t ≠ [] := by
  fun_induction lines t with
  | case1 => simp
  | case2 => simp
  | case3 => simp
  | case4 c rest _ _ ih => cases h : lines rest <;> simp_all

/-- The lines with their breaks are the text. -/
@[simp] theorem flatMap_lines (t : Text) : (lines t).flatMap Line.toText = t := by
  fun_induction lines t with
  | case1 => rfl
  | case2 rest ih => simp [Line.toText, ih]
  | case3 c rest _ _ ih => simp [Line.toText, ih]
  | case4 c rest _ _ ih =>
    cases h : lines rest with
    | nil => exact absurd h (lines_ne_nil rest)
    | cons first more => simp_all [Line.toText, Line.push]

end FrameScript.Text
