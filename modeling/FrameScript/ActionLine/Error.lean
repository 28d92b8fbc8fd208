import FrameScript.Text.Quoted

/-!
# Why a line is not an action line

Comments, commands and half-typed lines are no action lines, and each is refused for a reason: the
first thing in it that does not fit.
-/

namespace FrameScript.ActionLine

/-- The first thing that does not fit in a line. -/
inductive ParseError
  /-- There is nothing but blanks. -/
  | blank
  /-- The first field is not a run of digits. -/
  | badFrames (field : Text)
  /-- The frame count has more digits than its field has columns. -/
  | tooManyDigits (digits limit : Nat)
  /-- Nothing stands between two commas, or after the last one. -/
  | emptyField
  /-- A field is not the letter of an input. -/
  | unknownInput (field : Text)
  /-- A field begins like a number but is not a finite one. -/
  | badNumber (field : Text)
  /-- A number stands where no angle or magnitude is expected. -/
  | strayNumber (field : Text)
deriving DecidableEq, Repr

/-- The reason in words. -/
def ParseError.message : ParseError → Text
  | blank => "line is empty".toList
  | badFrames field => "invalid frame count ".toList ++ field.quote
  | tooManyDigits digits limit =>
    s!"frame count has {digits} digits, at most {limit} allowed".toList
  | emptyField => "empty token".toList
  | unknownInput field => "unknown input ".toList ++ field.quote
  | badNumber field => "invalid feather value ".toList ++ field.quote
  | strayNumber field =>
    "numeric field ".toList ++ field.quote ++ " without a preceding feather input".toList

end FrameScript.ActionLine
