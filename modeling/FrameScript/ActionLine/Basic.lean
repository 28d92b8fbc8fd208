import FrameScript.InputSet
import FrameScript.Number.Binary64

/-!
# Action lines

An action line holds a set of inputs for a number of frames. If aiming is among the inputs, an
angle may be given, and with the angle a magnitude. The width of the frame count field is not part
of what happens, but of how the line is laid out, and every line knows it.

## Implementation notes

A line that aims holds the feather input; the proof is a field, so no operation can forget it.
-/

namespace FrameScript

/-- The width of the frame count field, one to nine columns. -/
structure FrameWidth where
  columns : Nat
  one_le : 1 ≤ columns
  le_nine : columns ≤ 9
deriving DecidableEq

namespace FrameWidth

/-- The widest frame count field. -/
def limit : Nat := 9

/-- The usual width of the frame count field. -/
def usual : Nat := 4

/-- The width nearest to a number of columns. -/
def clamp (columns : Nat) : FrameWidth where
  columns := max 1 (min columns limit)
  one_le := Nat.le_max_left ..
  le_nine := Nat.max_le.2 ⟨by decide, Nat.min_le_right ..⟩

instance : Inhabited FrameWidth := ⟨clamp usual⟩

/-- A width is not changed by clamping. -/
@[simp] theorem clamp_columns (w : FrameWidth) : clamp w.columns = w := by
  obtain ⟨columns, h₁, h₉⟩ := w
  simp only [clamp, limit, mk.injEq]
  omega

end FrameWidth

/-- Where feather points: an angle, and how far. -/
structure Aim where
  angle : Binary64
  magnitude : Option Binary64
deriving DecidableEq

/-- A frame count and the inputs held for it. -/
@[ext] structure ActionLine where
  frames : Nat
  inputs : InputSet
  aim : Option Aim
  width : FrameWidth
  feather_of_aim : aim.isSome = true → Input.feather ∈ inputs
deriving DecidableEq

namespace ActionLine

/-- The line of a frame count and a set of inputs, without aim and in the usual width. -/
def ofFrames (frames : Nat) (inputs : InputSet) : ActionLine where
  frames
  inputs
  aim := none
  width := default
  feather_of_aim := by simp

/-- The same line aiming somewhere; it holds feather from now on. -/
def withAim (line : ActionLine) (aim : Aim) : ActionLine where
  frames := line.frames
  inputs := line.inputs.insert .feather
  aim := some aim
  width := line.width
  feather_of_aim := by simp [InputSet.mem_iff]

/-- The same line in another width. -/
def withWidth (line : ActionLine) (columns : Nat) : ActionLine :=
  { line with width := .clamp columns }

/-- The same line holding one input more. -/
def addInput (line : ActionLine) (i : Input) : ActionLine where
  frames := line.frames
  inputs := line.inputs.insert i
  aim := line.aim
  width := line.width
  feather_of_aim h := by
    have := line.feather_of_aim h
    simp_all [InputSet.mem_iff]

/-- The same line at another angle. A magnitude that was given stays. -/
def withAngle (line : ActionLine) (angle : Binary64) : ActionLine :=
  line.withAim ⟨angle, line.aim.bind Aim.magnitude⟩

/-- The same line at another magnitude. Without an angle there is none. -/
def withMagnitude (line : ActionLine) (magnitude : Binary64) : ActionLine where
  frames := line.frames
  inputs := line.inputs
  aim := line.aim.map fun aim => { aim with magnitude := some magnitude }
  width := line.width
  feather_of_aim h := line.feather_of_aim (by simpa using h)

/-- The angle, if one is given. -/
def angle? (line : ActionLine) : Option Binary64 := line.aim.map Aim.angle

/-- The magnitude, if one is given. -/
def magnitude? (line : ActionLine) : Option Binary64 := line.aim.bind Aim.magnitude

/-- Angle and magnitude are all that an aim is. -/
theorem aim_eq_of_eq {line other : ActionLine} (hangle : line.angle? = other.angle?)
    (hmagnitude : line.magnitude? = other.magnitude?) : line.aim = other.aim := by
  rw [angle?, angle?] at hangle
  rw [magnitude?, magnitude?] at hmagnitude
  cases haim : line.aim with
  | none =>
    cases hother : other.aim with
    | none => rfl
    | some aim => simp [haim, hother] at hangle
  | some aim =>
    cases hother : other.aim with
    | none => simp [haim, hother] at hangle
    | some aim' =>
      obtain ⟨angle, magnitude⟩ := aim
      obtain ⟨angle', magnitude'⟩ := aim'
      simp_all

/-! ### Additions to a line -/

section Additions

variable (line : ActionLine) (x : Binary64)

theorem aim_withMagnitude : (line.withMagnitude x).aim =
    line.aim.map fun aim => { aim with magnitude := some x } := rfl

@[simp] theorem angle?_withMagnitude : (line.withMagnitude x).angle? = line.angle? := by
  rw [angle?, angle?, aim_withMagnitude]
  cases line.aim <;> rfl

@[simp] theorem magnitude?_withMagnitude :
    (line.withMagnitude x).magnitude? = line.angle?.map fun _ => x := by
  rw [magnitude?, angle?, aim_withMagnitude]
  cases line.aim <;> rfl

end Additions

end ActionLine

end FrameScript
