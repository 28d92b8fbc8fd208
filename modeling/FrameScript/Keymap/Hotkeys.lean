import FrameScript.Keymap.Basic

/-!
# Default bindings

Platforms differ in the modifiers that select and that move by words, and in the gestures that
lead to the ends of lines and of the document. `Hotkeys` holds these conventions; the table of
bindings built from them is the same everywhere.

The table is a list of claims. If two of them claim the same gesture, the first keeps it: on a
platform where words are moved by with alt, extending by words and extending a rectangle by
characters both claim alt with shift.
-/

namespace FrameScript

/-- The conventions of a platform. -/
structure Hotkeys where
  /-- Held to extend the selection. -/
  extend : Modifiers
  /-- Held to move by words. -/
  byWord : Modifiers
  /-- Held with `A` to select everything. -/
  selectAll : Modifiers
  toLineStart : List Gesture
  extendToLineStart : List Gesture
  toLineEnd : List Gesture
  extendToLineEnd : List Gesture
  toDocumentStart : List Gesture
  extendToDocumentStart : List Gesture
  toDocumentEnd : List Gesture
  extendToDocumentEnd : List Gesture
deriving DecidableEq, Repr

namespace Hotkeys

/-! ### Platforms -/

open Modifiers in
/-- The conventions of a PC. -/
def pc : Hotkeys where
  extend := shiftOnly
  byWord := ctrlOnly
  selectAll := ctrlOnly
  toLineStart := [.plain .home]
  extendToLineStart := [.of .home shiftOnly]
  toLineEnd := [.plain .endKey]
  extendToLineEnd := [.of .endKey shiftOnly]
  toDocumentStart := [.of .home ctrlOnly]
  extendToDocumentStart := [.of .home (ctrlOnly ∪ shiftOnly)]
  toDocumentEnd := [.of .endKey ctrlOnly]
  extendToDocumentEnd := [.of .endKey (ctrlOnly ∪ shiftOnly)]

open Modifiers in
/-- The conventions of a Macintosh. -/
def mac : Hotkeys where
  extend := shiftOnly
  byWord := altOnly
  selectAll := superOnly
  toLineStart := [.plain .home, .of .left superOnly]
  extendToLineStart := [.of .home shiftOnly, .of .left (superOnly ∪ shiftOnly)]
  toLineEnd := [.plain .endKey, .of .right superOnly]
  extendToLineEnd := [.of .endKey shiftOnly, .of .right (superOnly ∪ shiftOnly)]
  toDocumentStart := [.of .up superOnly]
  extendToDocumentStart := [.of .up (superOnly ∪ shiftOnly)]
  toDocumentEnd := [.of .down superOnly]
  extendToDocumentEnd := [.of .down (superOnly ∪ shiftOnly)]

/-! ### Claims -/

/-- Held to extend a rectangle. -/
def box (hotkeys : Hotkeys) : Modifiers := .altOnly ∪ hotkeys.extend

/-- The claims of a key for a movement, for extending the selection by it, and for extending a
rectangle, with some modifiers held besides. -/
def arrowClaims (hotkeys : Hotkeys) (key : Key) (held : Modifiers) (m : Movement) :
    List (Gesture × Command) :=
  [(.of key held, .caret m .drop),
    (.of key (held ∪ hotkeys.extend), .caret m .extend),
    (.of key (held ∪ hotkeys.box), .caret m .box)]

/-- The claims of a key for a movement and for extending the selection by it. -/
def pageClaims (hotkeys : Hotkeys) (key : Key) (m : Movement) : List (Gesture × Command) :=
  [(.of key .none, .caret m .drop), (.of key hotkeys.extend, .caret m .extend)]

/-- The gestures that lead to the ends of lines and of the document, each with its command. -/
def edgeClaims (hotkeys : Hotkeys) : List (Gesture × Command) :=
  [(hotkeys.toLineStart, Command.caret .lineStart .drop),
    (hotkeys.extendToLineStart, .caret .lineStart .extend),
    (hotkeys.toLineEnd, .caret .lineEnd .drop),
    (hotkeys.extendToLineEnd, .caret .lineEnd .extend),
    (hotkeys.toDocumentStart, .caret .documentStart .drop),
    (hotkeys.extendToDocumentStart, .caret .documentStart .extend),
    (hotkeys.toDocumentEnd, .caret .documentEnd .drop),
    (hotkeys.extendToDocumentEnd, .caret .documentEnd .extend)].flatMap
      fun (gestures, command) => gestures.map (·, command)

/-- All claims, in the order in which they count. -/
def claims (hotkeys : Hotkeys) : List (Gesture × Command) :=
  hotkeys.arrowClaims .left .none .charLeft ++
  hotkeys.arrowClaims .right .none .charRight ++
  hotkeys.arrowClaims .left hotkeys.byWord .wordLeft ++
  hotkeys.arrowClaims .right hotkeys.byWord .wordRight ++
  hotkeys.arrowClaims .up .none .lineUp ++
  hotkeys.arrowClaims .down .none .lineDown ++
  hotkeys.pageClaims .pageDown .pageDown ++
  hotkeys.pageClaims .pageUp .pageUp ++
  [(.of .home hotkeys.box, .caret .lineStart .box),
    (.of .endKey hotkeys.box, .caret .lineEnd .box),
    (.of (.char 'A') hotkeys.selectAll, .selectAll)] ++
  hotkeys.edgeClaims

/-- The keymap of a platform: every gesture is bound to the first command that claims it. -/
def keymap (hotkeys : Hotkeys) : Keymap :=
  hotkeys.claims.foldl (fun keymap claim => keymap.bindIfFree claim.1 claim.2) ∅

end Hotkeys

end FrameScript
