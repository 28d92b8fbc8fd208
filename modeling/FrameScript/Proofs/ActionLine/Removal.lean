import FrameScript.Proofs.ActionLine.Layout
import FrameScript.Proofs.ActionLine.RoundTrip
import Mathlib.Data.List.Nodup

/-!
# Taking an input out of a line

In the canonical text an input takes the two columns before its edge, the comma and the letter, and
feather takes more than these only if it aims. The inputs that follow stand in the same order with
that input and without it, and nothing else in the text depends on which inputs there are. So the
line without the input is written as the line with it, less two characters.

## Main definitions

* `ActionLine.removeInput` — the line without an input

## Main results

* `ActionLine.Expressible.render_removeInput` — its canonical text
* `ActionLine.Expressible.removeInput`, `ActionLine.Expressible.parse?_render` — it is read back
-/

namespace FrameScript

namespace ActionLine

variable {line : ActionLine} {i : Input} {k columns : Nat}

/-- The same line without an input. Without feather it does not aim. -/
def removeInput (line : ActionLine) (i : Input) : ActionLine where
  frames := line.frames
  inputs := line.inputs \ .single i
  aim := if i = .feather then none else line.aim
  width := line.width
  feather_of_aim h := by
    split at h
    · cases h
    · rename_i hi
      exact InputSet.mem_sdiff_single.mpr ⟨line.feather_of_aim h, hi⟩

theorem aim_removeInput (line : ActionLine) (i : Input) :
    (line.removeInput i).aim = if i = .feather then none else line.aim := rfl

/-- Unless it is the feather of a line that aims, the input takes no payload with it. -/
theorem payload_removeInput (h : i ≠ .feather ∨ line.aim = none) :
    (line.removeInput i).payload = line.payload := by
  have haim : (line.removeInput i).aim = line.aim := by
    rw [aim_removeInput]
    split
    · rename_i hi
      exact (h.resolve_left (not_not_intro hi)).symm
    · rfl
  simp only [payload, haim]

/-- A line stays expressible without an input. -/
theorem Expressible.removeInput (h : line.Expressible) (i : Input) :
    (line.removeInput i).Expressible := by
  refine ⟨h.digits_le, InputSet.isKnown_sdiff h.known, ?_, ?_⟩
  · intro x hx
    rw [angle?, aim_removeInput] at hx
    split at hx
    · cases hx
    · exact h.angle_finite x hx
  · intro x hx
    rw [magnitude?, aim_removeInput] at hx
    split at hx
    · cases hx
    · exact h.magnitude_finite x hx

theorem Expressible.tokenCount_removeInput (h : line.Expressible) (hi : i ∈ line.inputs) :
    (line.removeInput i).tokenCount + 1 = line.tokenCount := by
  have hmem : i ∈ line.inputs.members := InputSet.mem_members.mpr hi
  have hpos := List.length_pos_of_mem hmem
  rw [(h.removeInput i).tokenCount_eq, h.tokenCount_eq, ActionLine.removeInput,
    InputSet.members_sdiff_single, List.length_erase_of_mem hmem]
  omega

/-- **The canonical text** without an input is that with it, less the two characters before the
edge of the input. -/
theorem Expressible.render_removeInput (h : line.Expressible)
    (hi : line.inputs.members[k]? = some i) (haim : i ≠ .feather ∨ line.aim = none) :
    (line.removeInput i).render =
      line.render.take (line.edge k - 1) ++ line.render.drop (line.edge (k + 1) - 1) := by
  obtain ⟨hk, hget⟩ := List.getElem?_eq_some_iff.mp hi
  have hmembers : line.inputs.members =
      line.inputs.members.take k ++ i :: line.inputs.members.drop (k + 1) := by
    rw [← hget, ← List.drop_eq_getElem_cons hk, List.take_append_drop]
  have hrest : (line.removeInput i).inputs.members =
      line.inputs.members.take k ++ line.inputs.members.drop (k + 1) := by
    rw [ActionLine.removeInput, InputSet.members_sdiff_single, ← hget,
      List.Nodup.erase_getElem line.inputs.nodup_members k hk, List.eraseIdx_eq_take_drop_succ]
  -- the text up to the comma of the input, and the text from its edge on
  obtain ⟨front, hfront⟩ : ∃ front, front =
      line.framesText ++ (line.inputs.members.take k).flatMap fun i => [',', i.letter] := ⟨_, rfl⟩
  obtain ⟨back, hback⟩ : ∃ back, back =
      ((line.inputs.members.drop (k + 1)).flatMap fun i => [',', i.letter]) ++ line.payload :=
    ⟨_, rfl⟩
  have hwith : line.render = front ++ [',', i.letter] ++ back := by
    rw [render_eq_tokensText, tokensText_eq, hmembers, List.flatMap_append, List.flatMap_cons]
    simp only [hfront, hback, List.append_assoc]
  have hwithout : (line.removeInput i).render = front ++ back := by
    rw [render_eq_tokensText, tokensText_eq, hrest, payload_removeInput haim, List.flatMap_append]
    simp only [hfront, hback, List.append_assoc]
    rfl
  have hlength : front.length = line.width.columns + 2 * k := by
    rw [hfront, List.length_append, h.length_framesText, length_flatMap_pairs,
      List.length_take_of_le (Nat.le_of_lt hk)]
  have htake : line.render.take (line.edge k - 1) = front := by
    rw [hwith, List.append_assoc]
    exact List.take_left' (by rw [hlength, edge, boundary]; omega)
  have hdrop : line.render.drop (line.edge (k + 1) - 1) = back := by
    rw [hwith]
    refine List.drop_left' ?_
    rw [List.length_append, hlength, edge, boundary, List.length_cons, List.length_singleton]
    omega
  rw [hwithout, htake, hdrop]

theorem Expressible.render_ne_nil (h : line.Expressible) : line.render ≠ [] := by
  intro hnil
  refine trim_render_ne_nil h ?_
  rw [hnil]
  rfl

/-- A line is read back in its width. -/
theorem Expressible.parse?_render (h : line.Expressible) (hwidth : line.width = .clamp columns) :
    parse? columns line.render = some line := by
  have hread := parse_render h
  rw [hwidth, parse_clamp] at hread
  exact parse?_eq_some_iff.mpr hread

end ActionLine

end FrameScript
