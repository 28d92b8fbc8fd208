import FrameScript.Proofs.Navigation.Progress

/-!
# Words on an action line

Between the inputs of an action line steps by word lead out: to the left to the boundary, to the
right to the last slot, and from the boundary a step to the right leads to the last slot as well.
Back from the last slot a step to the left leads to the boundary too, unless the line goes on
beyond the edge of feather. Then the caret is in the numbers, where words are those of the text as
it stands, while the inputs have the columns of the printed line. Where the last field of the text
stands among the columns of the inputs, that step leads between them again.

## Main definitions

* `ActionLine.AmongInputs` — the columns strictly between the boundary and the last edge
* `Navigation.JumpsBackIn` — the last field of the text stands among the inputs

## Main results

* `Navigation.amongInputs_landingSlot_iff` — which columns land among the inputs
* `Navigation.RestsOn.wordLeft_of_lastSlot` — the step to the left from the last slot
* `Navigation.not_jumpsBackIn_render` — on canonical text it does not lead back in
* `Navigation.word_jumps_leave_inputs_iff` — both orders of steps, in every document
-/

namespace FrameScript

/-- The column lies strictly between the boundary and the last edge. -/
def ActionLine.AmongInputs (action : ActionLine) (column : Nat) : Prop :=
  action.boundary < column ∧ column < action.lastEdge

instance (action : ActionLine) (column : Nat) : Decidable (action.AmongInputs column) :=
  inferInstanceAs (Decidable (_ ∧ _))

namespace Navigation

variable {nav : Navigation} {caret : Caret} {m : Movement} {action : ActionLine} {raw : Text}
  {next : Nat}

/-- The line goes on beyond the edge of feather, and the last stop of its text stands so far left
that it belongs to an edge before the last. -/
def JumpsBackIn (action : ActionLine) (raw : Text) : Prop :=
  .feather ∈ action.inputs ∧ action.lastEdge < reach action raw ∧
    action.boundary < Payload.lastStop raw ∧ Payload.lastStop raw + 1 < action.lastEdge

/-! ### Columns -/

/-- The column before the last edge belongs to the last edge already. -/
theorem amongInputs_landingSlot_iff (h : action.Expressible) (raw : Text) (next : Nat) :
    action.AmongInputs (landingSlot action raw next) ↔
      action.boundary < next ∧ next + 1 < action.lastEdge := by
  have horder := edges_in_order h raw
  rw [ActionLine.AmongInputs, landingSlot, h.snap_eq]
  split
  · omega
  · split
    · omega
    · split <;> omega

theorem not_amongInputs_boundary (action : ActionLine) : ¬ action.AmongInputs action.boundary :=
  fun h => Nat.lt_irrefl _ h.1

theorem lastEdge_le_lastSlot (h : action.Expressible) (raw : Text) :
    action.lastEdge ≤ lastSlot action raw := by
  rw [lastSlot_eq h]
  split
  · exact lastEdge_le_reach h raw
  · exact Nat.le_refl _

theorem boundary_mem_slots (h : action.Expressible) (raw : Text) :
    action.boundary ∈ slots action raw := by
  have horder := edges_in_order h raw
  rw [mem_slots_iff h]
  omega

/-- In canonical text the last field begins at the letter of feather or behind it. -/
theorem not_jumpsBackIn_render (h : action.Expressible) : ¬ JumpsBackIn action action.render := by
  rintro ⟨hfeather, -, -, hlt⟩
  have hrender : action.render =
      (action.framesText ++ action.inputs.buttons.flatMap fun i => [',', i.letter]) ++
        ',' :: Input.feather.letter :: action.payload := by
    rw [ActionLine.render_eq_tokensText, ActionLine.tokensText, if_pos hfeather, List.append_assoc]
  have hstart := Payload.lt_lastFieldStart_append
    (action.framesText ++ action.inputs.buttons.flatMap fun i => [',', i.letter])
    (Input.feather.letter :: action.payload)
  rw [← hrender, List.length_append, h.length_framesText, ActionLine.length_flatMap_pairs] at hstart
  have hcount : action.tokenCount = action.inputs.buttons.length + 1 := by
    rw [h.tokenCount_eq, InputSet.length_members, if_pos hfeather]
  have hstop : Payload.lastFieldStart action.render ≤ Payload.lastStop action.render :=
    Nat.le_add_right ..
  rw [ActionLine.lastEdge_eq, hcount, ActionLine.boundary] at hlt
  omega

/-- Where a step to the left leads from behind the numbers. -/
theorem amongInputs_landingSlot_wordLeft_iff (h : action.Expressible)
    (hfeather : .feather ∈ action.inputs) (hbeyond : action.lastEdge < reach action raw) :
    action.AmongInputs
        (landingSlot action raw (Payload.step raw (reach action raw) .wordLeft)) ↔
      JumpsBackIn action raw := by
  rw [amongInputs_landingSlot_iff h, JumpsBackIn, and_iff_right hfeather, and_iff_right hbeyond]
  have hlength : raw.length < reach action raw := by
    rw [reach]
    omega
  have hstart : Payload.lastFieldStart raw ≤ raw.length + 1 :=
    Nat.add_le_add_right (Nat.sub_le ..) 1
  rcases Nat.lt_or_ge (Payload.lastFieldStart raw) (reach action raw) with hlt | hge
  · rw [Payload.step_wordLeft_of_beyond hlength hlt]
  · -- a text that ends with a comma; neither column is among the inputs then
    have hstop : Payload.lastFieldStart raw ≤ Payload.lastStop raw := Nat.le_add_right ..
    have hedge : Payload.leftEdge raw (reach action raw) = reach action raw := by
      rw [Payload.leftEdge_of_beyond hlength]
      omega
    have hstep : Payload.step raw (reach action raw) .wordLeft = reach action raw - 1 := by
      simp only [Payload.step, hedge, if_true]
    omega

/-! ### Steps within the line -/

namespace RestsOn

variable (h : nav.RestsOn caret action raw) (hreader : nav.reader.IsFaithful)

include h

/-- The caret after a movement to a slot of its line. -/
theorem after_of_move {column : Nat} (hcolumn : column ∈ slots action raw)
    (hmove : (nav.move caret m).1 = .ok (.of caret.position.line column)) :
    (nav.after m caret).position = .of caret.position.line column ∧
      nav.RestsOn (nav.after m caret) action raw := by
  have hposition : (nav.after m caret).position = .of caret.position.line column :=
    position_of_move hmove
  refine ⟨hposition, ?_, h.parsed, ?_⟩
  · rw [hposition]
    exact h.line
  · rw [hposition]
    exact hcolumn

include hreader

/-- From the boundary and from between the inputs a step by word leads to the last slot. -/
theorem wordRight_of_lt_lastEdge (hboundary : action.boundary ≤ caret.position.column)
    (hlast : caret.position.column < action.lastEdge) :
    (nav.move caret .wordRight).1 = .ok (.of caret.position.line (lastSlot action raw)) := by
  have haction := h.expressible
  have hend := lastEdge_le_lastSlot haction raw
  have hrule : decideWithin action raw caret.position.rehint .wordRight =
      .toColumn (lastSlot action raw) := by
    rcases haction.region_cases (isSlot_of_mem_slots haction h.slot) with ⟨-, hlt⟩ |
      ⟨hregion, -⟩ | ⟨hregion, -⟩ | ⟨-, -, -, heq⟩ | ⟨-, -, hlt⟩
    · omega
    · simp only [decideWithin, Position.rehint, Position.column_of, hregion]
    · simp only [decideWithin, Position.rehint, Position.column_of, hregion]
    · omega
    · omega
  rw [h.move_right_within hreader rfl (by omega) hrule,
    landingSlot_of_mem haction (isGreatest_lastSlot haction raw).1]

/-- From the edges of the inputs a step by word leads to the boundary. -/
theorem wordLeft_of_le_lastEdge (hboundary : action.boundary < caret.position.column)
    (hlast : caret.position.column ≤ action.lastEdge) :
    (nav.move caret .wordLeft).1 = .ok (.of caret.position.line action.boundary) := by
  have haction := h.expressible
  have horder := edges_in_order haction raw
  have hrule : decideWithin action raw caret.position.rehint .wordLeft =
      .toColumn action.boundary := by
    rcases haction.region_cases (isSlot_of_mem_slots haction h.slot) with ⟨-, hlt⟩ |
      ⟨-, heq⟩ | ⟨hregion, -⟩ | ⟨hregion, -⟩ | ⟨-, -, hlt⟩
    · omega
    · omega
    · simp only [decideWithin, Position.rehint, Position.column_of, hregion]
    · simp only [decideWithin, Position.rehint, Position.column_of, hregion]
    · omega
  rw [h.move_left_within hreader rfl (by omega) hrule,
    landingSlot_of_mem haction (boundary_mem_slots haction raw)]

/-- **From the last slot** a step by word leads between the inputs exactly if the last field of the
text stands there. -/
theorem wordLeft_of_lastSlot (htokens : action.boundary < action.lastEdge)
    (hend : caret.position.column = lastSlot action raw) :
    ∃ column, (nav.move caret .wordLeft).1 = .ok (.of caret.position.line column) ∧
      (action.AmongInputs column ↔ JumpsBackIn action raw) := by
  have haction := h.expressible
  have horder := edges_in_order haction raw
  by_cases hbeyond : Input.feather ∈ action.inputs ∧ action.lastEdge < reach action raw
  · -- the caret stands behind the text, in the payload
    rw [lastSlot_eq haction, if_pos hbeyond.1] at hend
    have hregion := haction.region_of_lastEdge_lt hbeyond.2
    rw [← hend] at hregion
    have hrule : decideWithin action raw caret.position.rehint .wordLeft =
        .toColumn (Payload.step raw caret.position.column .wordLeft) := by
      simp only [decideWithin, Position.rehint, Position.column_of, hregion]
    refine ⟨_, h.move_left_within hreader rfl (by omega) hrule, ?_⟩
    rw [hend, amongInputs_landingSlot_wordLeft_iff haction hbeyond.1 hbeyond.2]
  · -- the line ends with the letter of an input
    have hlast : lastSlot action raw = action.lastEdge := by
      rw [lastSlot_eq haction]
      split
      · rename_i hfeather
        have hnot : ¬ action.lastEdge < reach action raw := fun hlt => hbeyond ⟨hfeather, hlt⟩
        omega
      · rfl
    refine ⟨_, h.wordLeft_of_le_lastEdge hreader (by omega) (by omega), ?_⟩
    refine iff_of_false (not_amongInputs_boundary action) fun hjumps => ?_
    exact hbeyond ⟨hjumps.1, hjumps.2.1⟩

end RestsOn

/-- **Steps by word leave the inputs.** From the edge of an input that is not the last one, a step
to the left and then one to the right leads out of the inputs of the line; and so does a step to
the right and then one to the left, unless the last field of the text stands among the inputs,
which it never does in canonical text. -/
theorem word_jumps_leave_inputs_iff {doc : Document} (hdoc : nav.reader = doc.reader)
    (hraw : nav.reader.line? caret.position.line = some raw)
    (hparse : ActionLine.parse? nav.frameColumns raw = some action)
    (hedge : caret.position.column ∈ action.edges)
    (hlast : caret.position.column < action.lastEdge) :
    (∃ p q, (nav.move caret .wordLeft).1 = .ok p ∧
      (nav.move (nav.after .wordLeft caret) .wordRight).1 = .ok q ∧
      q.line = caret.position.line ∧ ¬ action.AmongInputs q.column) ∧
    (∃ p q, (nav.move caret .wordRight).1 = .ok p ∧
      (nav.move (nav.after .wordRight caret) .wordLeft).1 = .ok q ∧
      q.line = caret.position.line ∧ (action.AmongInputs q.column ↔ JumpsBackIn action raw)) ∧
    (raw = action.render → ¬ JumpsBackIn action raw) := by
  have hreader : nav.reader.IsFaithful := hdoc ▸ doc.isFaithful_reader
  have haction := ActionLine.expressible_of_parse? hparse
  have hboundary := (ActionLine.mem_edges_iff_mod.mp hedge).1
  have h : nav.RestsOn caret action raw := ⟨hraw, hparse, Or.inr (Or.inl hedge)⟩
  refine ⟨?_, ?_, fun hcanonical => hcanonical ▸ not_jumpsBackIn_render haction⟩
  · have hleft := h.wordLeft_of_le_lastEdge hreader hboundary (Nat.le_of_lt hlast)
    obtain ⟨hposition, hafter⟩ := h.after_of_move (boundary_mem_slots haction raw) hleft
    have hright := hafter.wordRight_of_lt_lastEdge hreader
      (by rw [hposition]; exact Nat.le_refl _) (by rw [hposition]; exact hboundary.trans hlast)
    rw [hposition] at hright
    exact ⟨_, _, hleft, hright, rfl, fun hamong =>
      Nat.not_lt.mpr (lastEdge_le_lastSlot haction raw) hamong.2⟩
  · have hright := h.wordRight_of_lt_lastEdge hreader (Nat.le_of_lt hboundary) hlast
    obtain ⟨hposition, hafter⟩ :=
      h.after_of_move (isGreatest_lastSlot haction raw).1 hright
    obtain ⟨column, hleft, hamong⟩ :=
      hafter.wordLeft_of_lastSlot hreader (hboundary.trans hlast) (by rw [hposition]; rfl)
    rw [hposition] at hleft
    exact ⟨_, _, hright, hleft, rfl, hamong⟩

/-- Around the inputs of a canonical line with an angle, a step to the right and one to the left
lead to the point of the angle. -/
theorem word_jumps_leave_inputs_of_angle :
    ∃ action, ActionLine.parse? 4 "   1,R,J,F,4.5".toList = some action ∧ action.AmongInputs 7 ∧
      ∃ p q, (move (ofDocument (Document.ofText "# c\n   1,R,J,F,4.5".toList) 20 4)
          (.placedAt (.of 2 7)) .wordRight).1 = .ok p ∧
        (move (ofDocument (Document.ofText "# c\n   1,R,J,F,4.5".toList) 20 4)
          (after (ofDocument (Document.ofText "# c\n   1,R,J,F,4.5".toList) 20 4) .wordRight
            (.placedAt (.of 2 7))) .wordLeft).1 = .ok q ∧
        q = .of 2 13 ∧ ¬ action.AmongInputs q.column := by
  obtain ⟨action, hparse⟩ := Option.isSome_iff_exists.mp
    (show (ActionLine.parse? 4 "   1,R,J,F,4.5".toList).isSome = true by decide +kernel)
  have hline : (ActionLine.parse? 4 "   1,R,J,F,4.5".toList).all (fun action =>
      action.render = "   1,R,J,F,4.5".toList ∧ 7 ∈ action.edges ∧ action.AmongInputs 7) =
        true := by
    decide +kernel
  rw [hparse, Option.all_some, decide_eq_true_iff] at hline
  obtain ⟨hrender, hedge, hinputs⟩ := hline
  have hreader : (ofDocument (Document.ofText "# c\n   1,R,J,F,4.5".toList) 20 4).reader =
      (Document.ofText "# c\n   1,R,J,F,4.5".toList).reader := rfl
  have hraw : (ofDocument (Document.ofText "# c\n   1,R,J,F,4.5".toList) 20 4).reader.line?
      (Caret.placedAt (.of 2 7)).position.line = some "   1,R,J,F,4.5".toList := by
    decide +kernel
  obtain ⟨-, ⟨p, q, hright, hleft, -, hamong⟩, hcanonical⟩ :=
    word_jumps_leave_inputs_iff hreader hraw hparse hedge hinputs.2
  refine ⟨action, hparse, hinputs, p, q, hright, hleft, ?_,
    fun h => hcanonical hrender.symm (hamong.mp h)⟩
  exact Except.ok.inj (hleft.symm.trans (by decide +kernel))

/-- On a line without its padding the last field stands among the inputs: a step to the right and
one to the left lead back to where they started. -/
theorem word_jumps_return_among_inputs :
    (∃ action, (ofDocument (Document.ofText "1,R,F,4".toList) 20 4).actionLine? 1 = some action ∧
      7 ∈ action.edges ∧ action.AmongInputs 7) ∧
      (move (ofDocument (Document.ofText "1,R,F,4".toList) 20 4)
        (.placedAt (.of 1 7)) .wordRight).1 = .ok (.of 1 11) ∧
      (move (ofDocument (Document.ofText "1,R,F,4".toList) 20 4)
        (after (ofDocument (Document.ofText "1,R,F,4".toList) 20 4) .wordRight
          (.placedAt (.of 1 7))) .wordLeft).1 = .ok (.of 1 7) := by
  refine ⟨?_, by decide +kernel, by decide +kernel⟩
  have hline : ((ofDocument (Document.ofText "1,R,F,4".toList) 20 4).actionLine? 1).any
      (fun action => 7 ∈ action.edges ∧ action.AmongInputs 7) = true := by
    decide +kernel
  obtain ⟨action, hparse, hfacts⟩ := Option.any_eq_true _ _ |>.mp hline
  exact ⟨action, hparse, of_decide_eq_true hfacts⟩

end Navigation

end FrameScript
