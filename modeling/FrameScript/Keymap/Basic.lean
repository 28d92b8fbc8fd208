import FrameScript.Keymap.Command
import FrameScript.Keymap.Gesture

/-!
# Keymaps

A keymap binds gestures to commands. A gesture is bound to at most one command, which is part of
the type; several gestures may be bound to the same.

`command?` is the view of a keymap: `command?_bind`, `command?_bindIfFree` and `command?_unbind`
say what becomes of it.

## Implementation notes

The bindings are kept in the order in which they were made. Nothing but the order of `gesturesOf`
depends on it.
-/

namespace FrameScript

/-- Commands bound to gestures. -/
structure Keymap where
  bindings : List (Gesture × Command)
  nodup : (bindings.map Prod.fst).Nodup

namespace Keymap

instance : EmptyCollection Keymap := ⟨[], List.nodup_nil⟩

/-- The command a gesture is bound to. -/
def command? (keymap : Keymap) (g : Gesture) : Option Command := keymap.bindings.lookup g

/-- The number of bindings. -/
def size (keymap : Keymap) : Nat := keymap.bindings.length

/-- Whether nothing is bound. -/
def isEmpty (keymap : Keymap) : Bool := keymap.bindings.isEmpty

/-- The gestures bound to a command. -/
def gesturesOf (keymap : Keymap) (command : Command) : List Gesture :=
  (keymap.bindings.filter (·.2 = command)).map Prod.fst

/-- The keymap without a gesture. -/
def unbind (keymap : Keymap) (g : Gesture) : Keymap where
  bindings := keymap.bindings.filter (·.1 ≠ g)
  nodup := keymap.nodup.sublist (List.filter_sublist.map Prod.fst)

/-- The keymap with a gesture bound to a command, whatever it was bound to before. -/
def bind (keymap : Keymap) (g : Gesture) (command : Command) : Keymap where
  bindings := (keymap.unbind g).bindings ++ [(g, command)]
  nodup := by
    have h := (keymap.unbind g).nodup
    simp only [List.map_append, List.map_cons, List.map_nil]
    refine List.nodup_append.2 ⟨h, by simp, ?_⟩
    intro a ha b hb
    obtain ⟨binding, hmem, rfl⟩ := List.mem_map.1 ha
    have hne := (List.mem_filter.1 hmem).2
    simp_all

/-- The keymap with a gesture bound to a command unless it is bound already. -/
def bindIfFree (keymap : Keymap) (g : Gesture) (command : Command) : Keymap :=
  if (keymap.command? g).isSome then keymap else keymap.bind g command

/-! ### The view of a keymap -/

theorem command?_empty (g : Gesture) : (∅ : Keymap).command? g = none := rfl

private theorem lookup_cons_ite (g k : Gesture) (c : Command) (rest : List (Gesture × Command)) :
    List.lookup g ((k, c) :: rest) = if g = k then some c else List.lookup g rest := by
  rw [List.lookup_cons]
  by_cases h : g = k
  · simp [h]
  · rw [beq_eq_false_iff_ne.2 h, if_neg h]

theorem command?_unbind (keymap : Keymap) (g h : Gesture) :
    (keymap.unbind g).command? h = if h = g then none else keymap.command? h := by
  simp only [command?, unbind]
  induction keymap.bindings with
  | nil => simp
  | cons binding rest ih =>
    obtain ⟨k, c⟩ := binding
    by_cases hk : k = g
    · rw [List.filter_cons_of_neg (by simp [hk]), ih, lookup_cons_ite, hk]
      split <;> rfl
    · rw [List.filter_cons_of_pos (by simp [hk]), lookup_cons_ite, lookup_cons_ite, ih]
      by_cases hh : h = k <;> simp_all

theorem command?_bind (keymap : Keymap) (g h : Gesture) (command : Command) :
    (keymap.bind g command).command? h = if h = g then some command else keymap.command? h := by
  have hunbind := command?_unbind keymap g h
  simp only [command?, bind] at hunbind ⊢
  rw [List.lookup_append, hunbind, lookup_cons_ite]
  by_cases hg : h = g <;> simp [hg]

theorem command?_bindIfFree (keymap : Keymap) (g h : Gesture) (command : Command) :
    (keymap.bindIfFree g command).command? h =
      (keymap.command? h).or (if h = g then some command else none) := by
  unfold bindIfFree
  by_cases hg : h = g
  · subst hg
    cases hc : keymap.command? h with
    | none => simp [command?_bind]
    | some c => simp [hc]
  · rw [if_neg hg, Option.or_none]
    split
    · rfl
    · rw [command?_bind, if_neg hg]

end Keymap

end FrameScript
