import FrameScript.Position
import FrameScript.Text.Basic

/-!
# Reading lines

Navigation reads text through four questions only, and whoever can answer them can be navigated:
how many lines there are, what a line says, how long the whole text is and where an offset lies.
Nothing is assumed about how the answers fit together. A reader may deny lines that it counts, or
place its end somewhere else; that of a document does neither.
-/

namespace FrameScript

/-- Read access to the lines of a text. Lines are counted from 1. -/
structure LineReader where
  lineCount : Nat
  /-- The text of a line without its break. -/
  line? : Nat → Option Text
  /-- The number of characters, breaks included. -/
  textLength : Nat
  /-- The position of an offset. -/
  position? : Nat → Option Position

/-- The length of a line without its break. -/
def LineReader.lineLength? (reader : LineReader) (line : Nat) : Option Nat :=
  (reader.line? line).map List.length

end FrameScript
