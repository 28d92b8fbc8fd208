import FrameScript.ActionLine.Basic

/-!
# Writing action lines

The canonical text of a line: the frame count, padded on the left to the width of its field, then
a comma and a letter for each input in canonical order, then angle and magnitude of feather, each
after a comma.
-/

namespace FrameScript.ActionLine

/-- Angle and magnitude, each after a comma. -/
def payload (line : ActionLine) : Text :=
  match line.aim with
  | none => []
  | some ⟨angle, none⟩ => ',' :: angle.toText
  | some ⟨angle, some magnitude⟩ => ',' :: angle.toText ++ ',' :: magnitude.toText

/-- The padded frame count. -/
def framesText (line : ActionLine) : Text :=
  (Decimal.wholeText line.frames).leftpad line.width.columns ' '

/-- What stands for an input. -/
def token (line : ActionLine) (i : Input) : Text :=
  ',' :: i.letter :: if i = .feather then line.payload else []

/-- The canonical text. -/
def render (line : ActionLine) : Text :=
  line.framesText ++ line.inputs.members.flatMap line.token

/-- The length of the canonical text. -/
def textLength (line : ActionLine) : Nat := line.render.length

end FrameScript.ActionLine
