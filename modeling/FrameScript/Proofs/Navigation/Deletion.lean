import FrameScript.Proofs.ActionLine.Removal
import FrameScript.Proofs.Document.LineEdit
import FrameScript.Proofs.Navigation.Progress

/-!
# Deleting an input

On an action line backspace is a step to the left, and what it walks over is there to be deleted.
From the edge of an input the step leads to the edge before it, or to the boundary, so that it walks
over the comma and the letter of that input. If the line is written as it is printed, then the text
without these two characters is the printed line without the input. So the edit takes out the input
and nothing else, and leaves the caret on a slot of the line that is left.

## Main results

* `Navigation.edge_mem_slots`, `Navigation.leftOf_edge` — the edges are slots, two columns apart
* `Navigation.RestsOn.move_backspace_of_edge` — backspace leads from edge to edge
* `Navigation.backspace_deletes_input` — and deletes the input between them, in every document
-/

namespace FrameScript

namespace Navigation

variable {nav : Navigation} {caret : Caret} {action : ActionLine} {raw : Text} {i : Input} {k : Nat}

/-! ### From edge to edge -/

/-- The boundary and the edges are slots. -/
theorem edge_mem_slots (h : action.Expressible) (raw : Text) (hk : k ≤ action.tokenCount) :
    action.edge k ∈ slots action raw := by
  have horder := edges_in_order h raw
  have hedge : action.edge k = action.boundary + 2 * k := rfl
  rw [mem_slots_iff h]
  omega

theorem leftOf_edge (hk : k < action.tokenCount) :
    leftOf action (action.edge (k + 1)) = action.edge k := by
  have hlast := ActionLine.lastEdge_eq action
  have hedge : action.edge (k + 1) = action.boundary + 2 * (k + 1) := rfl
  rw [leftOf, if_neg (by omega), hedge, ActionLine.edge]
  omega

/-- **Backspace leads from edge to edge**, and from the first edge to the boundary. -/
theorem RestsOn.move_backspace_of_edge (h : nav.RestsOn caret action raw)
    (hreader : nav.reader.IsFaithful) (hk : k < action.tokenCount)
    (hedge : action.edge (k + 1) = caret.position.column) :
    (nav.move caret .backspace).1 = .ok (.of caret.position.line (action.edge k)) := by
  have haction := h.expressible
  have horder := edges_in_order haction raw
  have hfirst : action.firstDigit < caret.position.column := by
    rw [← hedge, ActionLine.edge]
    omega
  have hrule : decideWithin action raw caret.position.rehint .backspace =
      .toColumn (leftOf action caret.position.column) :=
    decideWithin_charLeft haction (isSlot_of_mem_slots haction h.slot) (Or.inr rfl)
  rw [h.move_left_within hreader rfl hfirst hrule, ← hedge, leftOf_edge hk,
    landingSlot_of_mem haction (edge_mem_slots haction raw (Nat.le_of_lt hk))]

/-! ### The edit -/

/-- **Between the edge of an input and the edge before it** there is nothing but that input: the
edit between them leaves the printed line without it. -/
theorem exists_replace_of_edge {doc : Document} {n : Nat} (h : action.Expressible)
    (hraw : doc.reader.line? n = some action.render) (hi : action.inputs.members[k]? = some i)
    (haim : i ≠ .feather ∨ action.aim = none) {p q : Position} (hp : p.line = n) (hq : q.line = n)
    (hpColumn : p.column = action.edge k) (hqColumn : q.column = action.edge (k + 1)) :
    ∃ edit after, doc.replace (.ordered p q) [] = (.ok edit, after) ∧ edit.removed = 2 ∧
      doc.DiffersAt after n action.render (action.removeInput i).render := by
  obtain ⟨line, hline, hcontent⟩ := Option.map_eq_some_iff.mp ((doc.line?_reader n).symm.trans hraw)
  have hk : k < action.tokenCount := h.lt_tokenCount hi
  have hedge : 1 ≤ action.edge k ∧ action.edge (k + 1) = action.edge k + 2 :=
    ⟨Nat.le_add_right_of_le (Nat.le_add_left ..), rfl⟩
  have hlast : action.edge (k + 1) ≤ line.content.length + 1 := by
    have hle := h.lastEdge_le
    rw [hcontent]
    refine Nat.le_trans ?_ hle
    exact Nat.add_le_add_left (Nat.mul_le_mul_left 2 hk) action.boundary
  have hnothing : ∀ c ∈ ([] : Text), Text.isBreak c = false :=
    fun c hc => absurd hc List.not_mem_nil
  have hspliced : line.content.take (p.column - 1) ++ [] ++ line.content.drop (q.column - 1) =
      (action.removeInput i).render := by
    rw [hcontent, hpColumn, hqColumn, List.append_nil, h.render_removeInput hi haim]
  obtain ⟨edit, after, hreplace, hremoved, hdiffers⟩ :=
    doc.replace_within_line hline hp hq (by omega) (by omega) (by omega) hnothing
      (by rw [hspliced]; exact (h.removeInput i).render_ne_nil)
  rw [hspliced, hcontent] at hdiffers
  exact ⟨edit, after, hreplace, by omega, hdiffers⟩

/-- **Backspace deletes an input.** On a line that is written as it is printed, the step from the
edge of an input walks over that input. Unless it is feather with an aim, the edit between the two
positions of the caret is made and takes out two characters. The line is then the printed line
without the input, with the other inputs and the aim as they were, and is read as such; all other
lines are what they were; and where the caret has gone is a slot of the line. -/
theorem backspace_deletes_input {doc : Document} (hdoc : nav.reader = doc.reader)
    (hraw : doc.reader.line? caret.position.line = some action.render)
    (hparse : ActionLine.parse? nav.frameColumns action.render = some action)
    (hedge : action.edgeOf? i = some caret.position.column)
    (haim : i ≠ .feather ∨ action.aim = none) :
    ∃ q edit after, (nav.move caret .backspace).1 = .ok q ∧ q.line = caret.position.line ∧
      doc.replace (.ordered q caret.position) [] = (.ok edit, after) ∧ edit.removed = 2 ∧
      doc.DiffersAt after caret.position.line action.render (action.removeInput i).render ∧
      ActionLine.parse? nav.frameColumns (action.removeInput i).render =
        some (action.removeInput i) ∧
      (action.removeInput i).IsSlot q.column ∧
      ({ nav with reader := after.reader } : Navigation).Rests q := by
  obtain ⟨k, hi, hcolumn⟩ := ActionLine.edgeOf?_eq_some_iff.mp hedge
  have haction := ActionLine.expressible_of_parse? hparse
  have hmem : i ∈ action.inputs := InputSet.mem_members.mp (List.mem_of_getElem? hi)
  have hcount := haction.tokenCount_removeInput hmem
  have hk : k < action.tokenCount := haction.lt_tokenCount hi
  have hrests : nav.RestsOn caret action action.render :=
    ⟨hdoc ▸ hraw, hparse, hcolumn ▸ edge_mem_slots haction _ hk⟩
  have hmove := hrests.move_backspace_of_edge (hdoc ▸ doc.isFaithful_reader) hk hcolumn
  obtain ⟨edit, after, hreplace, hremoved, hdiffers⟩ := exists_replace_of_edge haction hraw hi haim
    (p := .of caret.position.line (action.edge k)) (q := caret.position) rfl rfl rfl hcolumn.symm
  -- the line that is left has all columns up to there where they were
  have hleft := haction.removeInput i
  have hwidth : action.width = .clamp nav.frameColumns :=
    (ActionLine.frames_width_of_parse (ActionLine.parse?_eq_some_iff.mp hparse)).1
  have hleftParse : ActionLine.parse? nav.frameColumns (action.removeInput i).render =
      some (action.removeInput i) := hleft.parse?_render hwidth
  have hleftSlot : action.edge k ∈ slots (action.removeInput i) (action.removeInput i).render :=
    edge_mem_slots hleft _ (by omega)
  have hleftStops : ({ nav with reader := after.reader } : Navigation).stops caret.position.line =
      slots (action.removeInput i) (action.removeInput i).render :=
    stops_of_action hdiffers.line?_eq.2.2.2 hleftParse
  exact ⟨_, edit, after, hmove, rfl, hreplace, hremoved, hdiffers, hleftParse,
    isSlot_of_mem_slots hleft hleftSlot, rests_iff.mpr (hleftStops ▸ hleftSlot)⟩

/-- Between lines of other kinds, from the edge of an input with others on both sides. -/
theorem backspace_deletes_jump :
    ∃ edit after,
      ((ofDocument (Document.ofText "# a\r\n  15,R,J,F,4.5\n20".toList) 20 4).move
        (.placedAt (.of 2 9)) .backspace).1 = .ok (.of 2 7) ∧
      (Document.ofText "# a\r\n  15,R,J,F,4.5\n20".toList).replace
        (.ordered (.of 2 7) (.of 2 9)) [] = (.ok edit, after) ∧
      edit.removed = 2 ∧ after.text = "# a\r\n  15,R,F,4.5\n20".toList ∧
      Rests ⟨after.reader, PlainText.mover 20, 4⟩ (.of 2 7) := by
  obtain ⟨action, haction⟩ := Option.isSome_iff_exists.mp
    (show (ActionLine.parse? 4 "  15,R,J,F,4.5".toList).isSome = true by decide +kernel)
  have hrender : action.render = "  15,R,J,F,4.5".toList := by
    have hprinted : (ActionLine.parse? 4 "  15,R,J,F,4.5".toList).map ActionLine.render =
        some "  15,R,J,F,4.5".toList := by decide +kernel
    rwa [haction, Option.map_some, Option.some.injEq] at hprinted
  have hedge : action.edgeOf? .jump = some (Caret.placedAt (.of 2 9)).position.column := by
    have hplace : (ActionLine.parse? 4 "  15,R,J,F,4.5".toList).map (·.edgeOf? .jump) =
        some (some 9) := by decide +kernel
    rwa [haction, Option.map_some, Option.some.injEq] at hplace
  have hreader : (ofDocument (Document.ofText "# a\r\n  15,R,J,F,4.5\n20".toList) 20 4).reader =
      (Document.ofText "# a\r\n  15,R,J,F,4.5\n20".toList).reader := rfl
  have hraw : (Document.ofText "# a\r\n  15,R,J,F,4.5\n20".toList).reader.line?
      (Caret.placedAt (.of 2 9)).position.line = some action.render := by
    rw [hrender]
    decide +kernel
  have hparse : ActionLine.parse? 4 action.render = some action := by rw [hrender, haction]
  have haim : Input.jump ≠ .feather ∨ action.aim = none := Or.inl (by decide)
  obtain ⟨q, edit, after, hmove, -, hreplace, hremoved, -, -, -, hrests⟩ :=
    backspace_deletes_input hreader hraw hparse hedge haim
  have hseven : ((ofDocument (Document.ofText "# a\r\n  15,R,J,F,4.5\n20".toList) 20 4).move
      (.placedAt (.of 2 9)) .backspace).1 = .ok (.of 2 7) := by
    decide +kernel
  obtain rfl : q = .of 2 7 := Except.ok.inj (hmove.symm.trans hseven)
  have hafter : after.text = "# a\r\n  15,R,F,4.5\n20".toList :=
    (congrArg (·.2.text) hreplace).symm.trans (by decide +kernel)
  exact ⟨edit, after, hmove, hreplace, hremoved, hafter, hrests⟩

end Navigation

end FrameScript
