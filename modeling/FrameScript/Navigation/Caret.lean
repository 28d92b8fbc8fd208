import FrameScript.Position

/-!
# The caret

Where the next edit goes, and the display cell that a run of vertical movements keeps to.
-/

namespace FrameScript

/-- A caret: its position, and the display cell remembered by vertical movements. -/
structure Caret where
  position : Position
  remembered : Option Nat
deriving DecidableEq, Repr

namespace Caret

/-- A caret that remembers nothing. -/
def placedAt (p : Position) : Caret := ⟨p, none⟩

instance : Inhabited Caret := ⟨placedAt .start⟩

end Caret

end FrameScript
