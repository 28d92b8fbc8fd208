import FrameScript.Text.Cells.Single
import FrameScript.Text.Hidden

/-!
# Quoted text in messages

A message that cites a piece of the script puts it in double quotes. Quotes and backslashes inside
are preceded by a backslash, the common controls have their usual letters, and a character that
could not be seen on its own, whether hidden or combining, is shown by its code point.
-/

namespace FrameScript.Text

/-- Whether a character is shown by its code point inside quotes. -/
def isShownByNumber (c : Char) : Bool := isHidden c || isCombining c

/-- A character inside quotes. -/
def quoteChar (c : Char) : Text :=
  match c with
  | '"' => ['\\', '"']
  | '\\' => ['\\', '\\']
  | '\t' => ['\\', 't']
  | '\n' => ['\\', 'n']
  | '\r' => ['\\', 'r']
  | '\x00' => ['\\', '0']
  | c =>
    if isShownByNumber c then
      ['\\', 'u', '\x7b'] ++ Nat.toDigits 16 c.toNat ++ ['\x7d']
    else [c]

/-- A text in double quotes. -/
def quote (t : Text) : Text := '"' :: t.flatMap quoteChar ++ ['"']

end FrameScript.Text
