import FrameScript.Text.Basic

/-!
# Line ending styles

Of the characters that break lines, three styles are in common use, and a document remembers which
of them its text began with.
-/

namespace FrameScript

/-- A style of ending lines. -/
inductive LineEnding
  | lf
  | crlf
  | cr
deriving DecidableEq, Repr

namespace LineEnding

/-- The characters of a line ending. -/
def text : LineEnding → Text
  | lf => ['\n']
  | crlf => ['\r', '\n']
  | cr => ['\r']

/-- The name of a line ending. -/
def name : LineEnding → String
  | lf => "LF"
  | crlf => "CRLF"
  | cr => "CR"

/-- The style of the first line feed or carriage return of a text, line feed if it has none. -/
def ofText : Text → LineEnding
  | [] => lf
  | '\n' :: _ => lf
  | '\r' :: '\n' :: _ => crlf
  | '\r' :: _ => cr
  | _ :: rest => ofText rest

end LineEnding

end FrameScript
