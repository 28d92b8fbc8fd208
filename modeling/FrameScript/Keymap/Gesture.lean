/-!
# Key gestures

A gesture is a key pressed while modifier keys are held.
-/

namespace FrameScript

/-- A key that navigation may be bound to. -/
inductive Key
  | left
  | right
  | up
  | down
  | home
  | endKey
  | pageUp
  | pageDown
  /-- The key of a character. -/
  | char (c : Char)
deriving DecidableEq, Repr

/-- The name of a key. -/
def Key.name : Key → String
  | left => "Left"
  | right => "Right"
  | up => "Up"
  | down => "Down"
  | home => "Home"
  | endKey => "End"
  | pageUp => "PageUp"
  | pageDown => "PageDown"
  | char c => String.singleton c

/-- The modifier keys held. -/
structure Modifiers where
  shift : Bool := false
  alt : Bool := false
  ctrl : Bool := false
  /-- The key called meta, command or super. -/
  super : Bool := false
deriving DecidableEq, Repr

namespace Modifiers

/-- No modifier. -/
def none : Modifiers := {}

/-- Shift alone. -/
def shiftOnly : Modifiers := { shift := true }

/-- Alt alone. -/
def altOnly : Modifiers := { alt := true }

/-- Ctrl alone. -/
def ctrlOnly : Modifiers := { ctrl := true }

/-- The meta key alone. -/
def superOnly : Modifiers := { super := true }

/-- The modifiers held in either of two sets. -/
instance : Union Modifiers :=
  ⟨fun a b => ⟨a.shift || b.shift, a.alt || b.alt, a.ctrl || b.ctrl, a.super || b.super⟩⟩

/-- The names of the modifiers, each followed by a plus sign. -/
def names (m : Modifiers) : String :=
  (if m.ctrl then "Ctrl+" else "") ++ (if m.super then "Meta+" else "") ++
    (if m.alt then "Alt+" else "") ++ (if m.shift then "Shift+" else "")

end Modifiers

/-- A key with the modifiers held. -/
structure Gesture where
  key : Key
  modifiers : Modifiers
deriving DecidableEq, Repr

namespace Gesture

/-- The gesture of a key, which for a character is that of its upper case letter. -/
def of (key : Key) (modifiers : Modifiers) : Gesture :=
  match key with
  | .char c => ⟨.char c.toUpper, modifiers⟩
  | key => ⟨key, modifiers⟩

/-- The gesture of a key without modifiers. -/
def plain (key : Key) : Gesture := of key .none

/-- The modifiers and the key in words. -/
def name (g : Gesture) : String := g.modifiers.names ++ g.key.name

end Gesture

end FrameScript
