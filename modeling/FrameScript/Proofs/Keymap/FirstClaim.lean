import FrameScript.Keymap.Hotkeys
import Mathlib.Data.Finset.Card

/-!
# The first claim of a gesture wins

A keymap made of claims binds every gesture to the first command that claims it, whatever the
conventions of the platform and however many claims clash. So what stands early in the table cannot
be taken away. The keys that move the caret without modifiers keep their movements, and no list of
gestures takes one from an arrow key, a page key, the rectangles at the ends of a line or the
selection of everything, because the lists come last.

## Main definitions

* `Hotkeys.withoutLists` — conventions whose lists of gestures are empty
* `Hotkeys.plainMoves` — the keys that move the caret without modifiers

## Main results

* `Keymap.command?_foldl_bindIfFree` — the commands of claims that are bound one after the other
* `Keymap.size_eq_card` — the size of a keymap is the number of its gestures
* `Hotkeys.command?_keymap` — the commands of the keymap of a platform
* `Hotkeys.first_claim_wins` — all platforms
-/

namespace FrameScript

namespace Keymap

variable {keymap : Keymap} {g : Gesture}

/-- **Claims that are bound one after the other** leave what is bound already as it is. Of each
other gesture the first claim counts. -/
theorem command?_foldl_bindIfFree (claims : List (Gesture × Command)) (keymap : Keymap)
    (g : Gesture) :
    (claims.foldl (fun keymap claim => keymap.bindIfFree claim.1 claim.2) keymap).command? g =
      (keymap.command? g).or (claims.lookup g) := by
  induction claims generalizing keymap with
  | nil => rw [List.foldl_nil, List.lookup_nil, Option.or_none]
  | cons claim rest ih =>
    rw [List.foldl_cons, ih, command?_bindIfFree, Option.or_assoc, List.lookup_cons]
    by_cases hg : g = claim.1
    · rw [if_pos hg, beq_iff_eq.mpr hg, Option.some_or]
    · rw [if_neg hg, beq_eq_false_iff_ne.mpr hg, Option.none_or]

theorem exists_lookup_iff {claims : List (Gesture × Command)} :
    (∃ c, claims.lookup g = some c) ↔ g ∈ claims.map Prod.fst := by
  rw [← Option.isSome_iff_exists, List.lookup_isSome_iff, List.mem_map]
  refine exists_congr fun claim => and_congr_right' ?_
  rw [beq_iff_eq, eq_comm]

/-- **The size of a keymap** is the number of gestures that have a command. -/
theorem size_eq_card {gestures : Finset Gesture}
    (h : ∀ g, g ∈ gestures ↔ ∃ c, keymap.command? g = some c) : keymap.size = gestures.card := by
  have hgestures : gestures = (keymap.bindings.map Prod.fst).toFinset := by
    ext g
    rw [h g, List.mem_toFinset]
    exact exists_lookup_iff
  rw [hgestures, List.toFinset_card_of_nodup keymap.nodup, List.length_map, size]

end Keymap

namespace Hotkeys

variable {hotkeys : Hotkeys} {g : Gesture} {c : Command}

theorem command?_keymap (hotkeys : Hotkeys) (g : Gesture) :
    hotkeys.keymap.command? g = hotkeys.claims.lookup g := by
  rw [keymap, Keymap.command?_foldl_bindIfFree, Keymap.command?_empty, Option.none_or]

theorem command?_keymap_eq_some_iff : hotkeys.keymap.command? g = some c ↔
    ∃ before after, hotkeys.claims = before ++ (g, c) :: after ∧ ∀ claim ∈ before, claim.1 ≠ g := by
  rw [command?_keymap, List.lookup_eq_some_iff]
  simp only [bne_iff_ne, ne_comm]

theorem command?_keymap_eq_none_iff :
    hotkeys.keymap.command? g = none ↔ ∀ claim ∈ hotkeys.claims, claim.1 ≠ g := by
  rw [command?_keymap, List.lookup_eq_none_iff]
  simp only [bne_iff_ne, ne_comm]

theorem size_keymap (hotkeys : Hotkeys) :
    hotkeys.keymap.size = (hotkeys.claims.map Prod.fst).toFinset.card := by
  refine Keymap.size_eq_card fun g => ?_
  rw [command?_keymap, Keymap.exists_lookup_iff, List.mem_toFinset]

/-! ### What cannot be taken away -/

/-- The keys that move the caret without modifiers, on every platform. -/
def plainMoves : List (Key × Movement) :=
  [(.left, .charLeft), (.right, .charRight), (.up, .lineUp), (.down, .lineDown),
    (.pageDown, .pageDown), (.pageUp, .pageUp)]

/-- Conventions whose lists of gestures are empty. What is claimed then are the arrow keys, the page
keys, the rectangles at the ends of a line and the selection of everything. -/
def withoutLists (hotkeys : Hotkeys) : Hotkeys where
  extend := hotkeys.extend
  byWord := hotkeys.byWord
  selectAll := hotkeys.selectAll
  toLineStart := []
  extendToLineStart := []
  toLineEnd := []
  extendToLineEnd := []
  toDocumentStart := []
  extendToDocumentStart := []
  toDocumentEnd := []
  extendToDocumentEnd := []

theorem claims_eq (hotkeys : Hotkeys) :
    hotkeys.claims = hotkeys.withoutLists.claims ++ hotkeys.edgeClaims := rfl

theorem command?_plain {key : Key} {m : Movement} (h : (key, m) ∈ plainMoves) :
    hotkeys.keymap.command? (.plain key) = some (.caret m .drop) := by
  rw [command?_keymap]
  simp only [plainMoves, List.mem_cons, Prod.mk.injEq, List.not_mem_nil, or_false] at h
  rcases h with ⟨rfl, rfl⟩ | ⟨rfl, rfl⟩ | ⟨rfl, rfl⟩ | ⟨rfl, rfl⟩ | ⟨rfl, rfl⟩ | ⟨rfl, rfl⟩ <;> rfl

/-- **No list of gestures** takes a gesture from a claim before the lists. -/
theorem command?_of_mem_withoutLists {claim : Gesture × Command}
    (h : claim ∈ hotkeys.withoutLists.claims) :
    hotkeys.keymap.command? claim.1 = hotkeys.withoutLists.keymap.command? claim.1 := by
  rw [command?_keymap, command?_keymap, claims_eq, List.lookup_append]
  have hsome := List.lookup_isSome_iff.mpr ⟨claim, h, beq_self_eq_true claim.1⟩
  rw [Option.or_of_isSome hsome]

/-- **The first claim of a gesture wins**, for all conventions of a platform. The command of a
gesture is that of the first claim with this gesture, and there is none exactly if there is no such
claim. The keymap has as many bindings as there are gestures claimed. The arrow keys and the page
keys without modifiers move the caret. Every gesture that is claimed by an arrow key, a page key, a
rectangle at the end of a line or the selection of everything has the command that it has if the
lists of gestures are empty. -/
theorem first_claim_wins (hotkeys : Hotkeys) :
    (∀ g c, hotkeys.keymap.command? g = some c ↔
      ∃ before after, hotkeys.claims = before ++ (g, c) :: after ∧
        ∀ claim ∈ before, claim.1 ≠ g) ∧
    (∀ g, hotkeys.keymap.command? g = none ↔ ∀ claim ∈ hotkeys.claims, claim.1 ≠ g) ∧
    hotkeys.keymap.size = (hotkeys.claims.map Prod.fst).toFinset.card ∧
    (∀ key m, (key, m) ∈ plainMoves →
      hotkeys.keymap.command? (.plain key) = some (.caret m .drop)) ∧
    ∀ claim ∈ hotkeys.withoutLists.claims,
      hotkeys.keymap.command? claim.1 = hotkeys.withoutLists.keymap.command? claim.1 := by
  refine ⟨fun g c => command?_keymap_eq_some_iff, fun g => command?_keymap_eq_none_iff,
    hotkeys.size_keymap, ?_, ?_⟩
  · intro key m h
    exact command?_plain h
  · intro claim h
    exact command?_of_mem_withoutLists h

open Modifiers in
/-- A Macintosh whose lists also ask for gestures that are claimed before them, and one twice. -/
def greedy : Hotkeys :=
  { mac with
    toLineStart := [.plain .left, .plain .home, .plain .home]
    toLineEnd := [.of .left (altOnly ∪ shiftOnly), .plain .endKey] }

open Modifiers in
/-- The arrow key to the left moves by a character, and extends a rectangle if alt and shift are
held: the rectangle was claimed before the extension by words, and both before the lists. The claims
are 38, of 31 gestures. -/
theorem first_claim_wins_over_lists :
    ((Key.left, Movement.charLeft) ∈ plainMoves ∧
      greedy.keymap.command? (.plain .left) = some (.caret .charLeft .drop)) ∧
    (.of .left (altOnly ∪ shiftOnly), .caret .wordLeft .extend) ∈ greedy.withoutLists.claims ∧
    greedy.keymap.command? (.of .left (altOnly ∪ shiftOnly)) = some (.caret .charLeft .box) ∧
    greedy.claims.length = 38 ∧ greedy.keymap.size = 31 := by
  obtain ⟨-, -, hsize, hplain, hlists⟩ := first_claim_wins greedy
  obtain ⟨hfirst, -⟩ := first_claim_wins greedy.withoutLists
  have hleft : (Key.left, Movement.charLeft) ∈ plainMoves := by decide
  have hclaim : (.of .left (altOnly ∪ shiftOnly), .caret .wordLeft .extend) ∈
      greedy.withoutLists.claims := by
    decide
  refine ⟨⟨hleft, hplain _ _ hleft⟩, hclaim, ?_, rfl, ?_⟩
  · rw [hlists _ hclaim]
    exact (hfirst _ _).mpr
      ⟨greedy.withoutLists.claims.take 2, greedy.withoutLists.claims.drop 3, rfl, by decide⟩
  · rw [hsize]
    decide

end Hotkeys

end FrameScript
