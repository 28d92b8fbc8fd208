import FrameScript.Proofs.Navigation.Payload
import FrameScript.Proofs.Text.StopWalk

/-!
# Steps stay within a field, or cross one border of it

A field is known by the commas around it: there is none in it, and one stands just outside at
either end, unless the line starts or the text ends there. This says nothing of how the edges are
found, and around one column there is only one such field. So what a step by word does can be told
from the field alone. It stops behind the first point of the field on the way to the right and
before it on the way to the left, and at the edge if that point does not lie ahead. It passes no
comma, unless the caret stands at the edge already.

The edges are found by going from column to column, and the text is read at every column on the way.
There is a character to be asked for at each of them but column 0, before which every search ends.

## Main definitions

* `Payload.StandsAt` — a character stands at a column
* `Payload.Encloses` — the two edges of the field around a column
* `Payload.IsFirstPoint` — the first point of a field
* `Payload.Passes` — the columns that lie between the caret and where a step leads
* `Payload.readingStep` — a step that reads the text character by character, and may fail to

## Main results

* `Payload.encloses_edges`, `Payload.Encloses.unique` — there is one field around every column
* `Payload.step_by_one_or` — a step leads on by one column or passes no comma
* `Payload.readingStep_eq` — reading never fails
* `Payload.step_within_field` — what the steps do, from every column but the first

## Implementation notes

Columns beyond the text belong to its last field, with themselves as the right edge. No character
stands there, so the first point of the field is the same from all of them.
-/

namespace FrameScript

namespace Payload

variable {raw : Text} {char : Char} {column left right left' right' point c n : Nat} {m : Movement}

/-! ### Characters at columns -/

/-- A character stands at a column. Columns count from 1. -/
def StandsAt (raw : Text) (char : Char) (column : Nat) : Prop :=
  1 ≤ column ∧ raw[column - 1]? = some char

instance (raw : Text) (char : Char) (column : Nat) : Decidable (StandsAt raw char column) :=
  inferInstanceAs (Decidable (_ ∧ _))

theorem standsAt_iff (hcolumn : 1 ≤ column) :
    StandsAt raw char column ↔ raw[column - 1]? = some char :=
  and_iff_right hcolumn

theorem StandsAt.le_length (h : StandsAt raw char column) : column ≤ raw.length := by
  have hlt := (List.getElem?_eq_some_iff.mp h.2).1
  have hone := h.1
  omega

/-! ### Edges from column to column

The edges are defined by what stands before and behind a column. Here they are followed from one
column to the next, which is how all that is said of them below is proved. -/

/-- One column further to the right the left edge is the same, unless a comma has been passed. -/
theorem leftEdge_succ (hcolumn : 1 ≤ column) : leftEdge raw (column + 1) =
    if StandsAt raw ',' column then column + 1 else leftEdge raw column := by
  obtain ⟨i, rfl⟩ := Nat.exists_eq_add_of_le' hcolumn
  rw [leftEdge, leftEdge, Nat.add_sub_cancel, Nat.add_sub_cancel, List.take_add_one,
    List.reverse_append]
  simp only [standsAt_iff hcolumn, Nat.add_sub_cancel]
  cases hchar : raw[i]? with
  | none => simp
  | some char =>
    have hlt := (List.getElem?_eq_some_iff.mp hchar).1
    by_cases hcomma : char = ','
    · simp [hcomma, Nat.le_of_lt hlt]
    · simp [hcomma]

/-- The right edge is that of the next column, unless a comma stands here or the text has ended. -/
theorem rightEdge_eq (hcolumn : 1 ≤ column) : rightEdge raw column =
    if StandsAt raw ',' column ∨ raw.length < column then column
    else rightEdge raw (column + 1) := by
  obtain ⟨i, rfl⟩ := Nat.exists_eq_add_of_le' hcolumn
  rcases Nat.lt_or_ge i raw.length with hlt | hge
  · rw [rightEdge, rightEdge, Nat.add_sub_cancel, Nat.add_sub_cancel,
      List.drop_eq_getElem_cons hlt]
    by_cases hcomma : raw[i] = ','
    · have hstands : StandsAt raw ',' (i + 1) := ⟨hcolumn, by simp [hlt, hcomma]⟩
      rw [if_pos (Or.inl hstands), List.takeWhile_cons_of_neg (by simp [hcomma])]
      rfl
    · have hstands : ¬StandsAt raw ',' (i + 1) := by simp [StandsAt, hlt, hcomma]
      rw [if_neg (not_or.mpr ⟨hstands, by omega⟩), List.takeWhile_cons_of_pos (by simp [hcomma]),
        List.length_cons]
      omega
  · have hbeyond : raw.length < i + 1 := Nat.lt_succ_of_le hge
    rw [if_pos (Or.inr hbeyond), rightEdge_of_beyond hbeyond]

/-! ### The field around a column -/

/-- The field around a column reaches from the column behind the comma before it, or from the start
of the line, to the comma behind it, or to the end of the text. Beyond the text the column itself is
its right edge. -/
structure Encloses (raw : Text) (left right column : Nat) : Prop where
  left_le : left ≤ column
  le_right : column ≤ right
  no_comma : ∀ c, left ≤ c → c < right → ¬StandsAt raw ',' c
  left_edge : left = 1 ∨ StandsAt raw ',' (left - 1)
  right_edge : right = max column (raw.length + 1) ∨ StandsAt raw ',' right

namespace Encloses

theorem left_le_left (h : Encloses raw left right column)
    (h' : Encloses raw left' right' column) : left' ≤ left := by
  by_contra hlt
  rcases h'.left_edge with hone | hcomma
  · have hleft : left = 1 ∨ 1 ≤ left - 1 := h.left_edge.imp_right And.left
    omega
  · have hleft := h'.left_le
    have hright := h.le_right
    exact h.no_comma (left' - 1) (by omega) (by omega) hcomma

theorem right_le_right (h : Encloses raw left right column)
    (h' : Encloses raw left' right' column) : right ≤ right' := by
  by_contra hlt
  have hright := h'.le_right
  rcases h'.right_edge with hend | hcomma
  · rcases h.right_edge with hend' | hcomma'
    · omega
    · have hlength := hcomma'.le_length
      omega
  · exact h.no_comma right' (h.left_le.trans hright) (by omega) hcomma

/-- **There is one field** around a column. -/
theorem unique (h : Encloses raw left right column) (h' : Encloses raw left' right' column) :
    left = left' ∧ right = right' :=
  ⟨Nat.le_antisymm (h'.left_le_left h) (h.left_le_left h'),
    Nat.le_antisymm (h.right_le_right h') (h'.right_le_right h)⟩

/-- Where no comma stands, the right edge is further on. -/
theorem lt_right (h : Encloses raw left right column) (hcomma : ¬StandsAt raw ',' column)
    (hlength : column ≤ raw.length) : column < right := by
  refine Nat.lt_of_le_of_ne h.le_right ?_
  rintro rfl
  have hend := h.right_edge.resolve_right hcomma
  omega

/-- Behind a column without a comma the left edge is further back. -/
theorem left_lt (h : Encloses raw left right column) (hcolumn : 2 ≤ column)
    (hcomma : ¬StandsAt raw ',' (column - 1)) : left < column := by
  refine Nat.lt_of_le_of_ne h.left_le ?_
  rintro rfl
  have hstart := h.left_edge.resolve_right hcomma
  omega

end Encloses

theorem no_comma_of_leftEdge_le (hleft : leftEdge raw column ≤ c) (hlt : c < column) :
    ¬StandsAt raw ',' c := by
  induction column with
  | zero => exact absurd hlt (Nat.not_lt_zero c)
  | succ n ih =>
    rcases Nat.eq_zero_or_pos n with rfl | hpos
    · rw [Nat.lt_one_iff.mp hlt]
      exact fun hcomma => absurd hcomma.1 (by decide)
    · rw [leftEdge_succ hpos] at hleft
      split at hleft
      · omega
      · rename_i hcomma
        rcases Nat.lt_succ_iff_lt_or_eq.mp hlt with hlt | rfl
        · exact ih hleft hlt
        · exact hcomma

theorem leftEdge_eq_one_or (raw : Text) (hcolumn : 1 ≤ column) :
    leftEdge raw column = 1 ∨ StandsAt raw ',' (leftEdge raw column - 1) := by
  induction column, hcolumn using Nat.le_induction with
  | base => exact Or.inl rfl
  | succ n hn ih =>
    rw [leftEdge_succ hn]
    split
    · rename_i hcomma
      exact Or.inr hcomma
    · exact ih

-- to the right, the induction is on how much of the text is left
theorem no_comma_of_lt_rightEdge (hcolumn : 1 ≤ column) (hle : column ≤ c)
    (hright : c < rightEdge raw column) : ¬StandsAt raw ',' c := by
  induction hrest : raw.length + 1 - column generalizing column with
  | zero =>
    rw [rightEdge_of_beyond (by omega)] at hright
    omega
  | succ n ih =>
    rw [rightEdge_eq hcolumn] at hright
    split at hright
    · omega
    · rename_i hgoes
      rcases Nat.lt_or_eq_of_le hle with hlt | rfl
      · exact ih (Nat.le_succ_of_le hcolumn) hlt hright (by omega)
      · exact (not_or.mp hgoes).1

theorem rightEdge_eq_end_or (raw : Text) (hcolumn : 1 ≤ column) :
    rightEdge raw column = max column (raw.length + 1) ∨
      StandsAt raw ',' (rightEdge raw column) := by
  induction hrest : raw.length + 1 - column generalizing column with
  | zero =>
    rw [rightEdge_of_beyond (by omega)]
    exact Or.inl (by omega)
  | succ n ih =>
    rw [rightEdge_eq hcolumn]
    split
    · rename_i hstops
      exact Or.inr (hstops.resolve_right (by omega))
    · refine (ih (Nat.le_succ_of_le hcolumn) (by omega)).imp_left fun hend => ?_
      rw [hend, Nat.max_eq_right (by omega), Nat.max_eq_right (by omega)]

/-- **The two edges enclose the column** where they are asked for. -/
theorem encloses_edges (raw : Text) (hcolumn : 1 ≤ column) :
    Encloses raw (leftEdge raw column) (rightEdge raw column) column where
  left_le := leftEdge_le raw hcolumn
  le_right := le_rightEdge raw column
  no_comma c hleft hright := by
    rcases Nat.lt_or_ge c column with hlt | hge
    · exact no_comma_of_leftEdge_le hleft hlt
    · exact no_comma_of_lt_rightEdge hcolumn hge hright
  left_edge := leftEdge_eq_one_or raw hcolumn
  right_edge := rightEdge_eq_end_or raw hcolumn

theorem Encloses.edges_eq (h : Encloses raw left right column) (hcolumn : 1 ≤ column) :
    leftEdge raw column = left ∧ rightEdge raw column = right :=
  (encloses_edges raw hcolumn).unique h

/-! ### The first point of a field -/

/-- The first point of a field stands at this column. -/
def IsFirstPoint (raw : Text) (left right point : Nat) : Prop :=
  IsLeast {c | (left ≤ c ∧ c < right) ∧ StandsAt raw '.' c} point

/-- What is found in a part of the text is the first of its columns where the character stands. -/
theorem map_findIdx?_eq_find? (raw : Text) (n : Nat) (hleft : 1 ≤ left) :
    (((raw.drop (left - 1)).take n).findIdx? (· = char)).map (left + ·) =
      (List.range' left n).find? fun c => StandsAt raw char c := by
  induction n generalizing left with
  | zero => rfl
  | succ n ih =>
    rw [List.range'_succ, List.find?_cons]
    rcases Nat.lt_or_ge (left - 1) raw.length with hlt | hge
    · have hdrop : left - 1 + 1 = left + 1 - 1 := by omega
      have hchar : StandsAt raw char left ↔ raw[left - 1] = char := by
        rw [standsAt_iff hleft, List.getElem?_eq_getElem hlt, Option.some_inj]
      rw [List.drop_eq_getElem_cons hlt, List.take_succ_cons, List.findIdx?_cons, hdrop]
      by_cases h : raw[left - 1] = char
      · rw [if_pos (decide_eq_true h), decide_eq_true (hchar.mpr h)]
        rfl
      · rw [if_neg (by simpa using h), decide_eq_false (mt hchar.mp h),
          ← ih (Nat.le_succ_of_le hleft), Option.map_map]
        congr 1
        funext i
        exact (Nat.succ_add_eq_add_succ left i).symm
    · -- beyond the text neither search finds anything
      have hnone : ∀ c, left ≤ c → ¬StandsAt raw char c := by
        intro c hc hstands
        have hlength := hstands.le_length
        omega
      rw [List.drop_of_length_le hge, decide_eq_false (hnone left (Nat.le_refl left)),
        List.find?_eq_none.mpr fun c hc => ?_]
      · rfl
      · have hle := (List.mem_range'_1.mp hc).1
        exact mt of_decide_eq_true (hnone c (Nat.le_of_succ_le hle))

theorem point?_eq_find? (raw : Text) (column : Nat) : point? raw column =
    (List.range' (leftEdge raw column) (rightEdge raw column - leftEdge raw column)).find?
      fun c => StandsAt raw '.' c :=
  map_findIdx?_eq_find? raw _ (Nat.le_add_left 1 _)

theorem isFirstPoint_of_point? (hcolumn : 1 ≤ column) (h : point? raw column = some point) :
    IsFirstPoint raw (leftEdge raw column) (rightEdge raw column) point := by
  rw [point?_eq_find?] at h
  have hleast := Text.isLeast_of_find? List.pairwise_lt_range' h
  have hedges := (leftEdge_le raw hcolumn).trans (le_rightEdge raw column)
  simpa only [IsFirstPoint, List.mem_range'_1, Nat.add_sub_cancel' hedges, decide_eq_true_eq]
    using hleast

/-- **The point that is found** is the first point of the field. -/
theorem point?_eq_some_iff (hcolumn : 1 ≤ column) : point? raw column = some point ↔
    IsFirstPoint raw (leftEdge raw column) (rightEdge raw column) point := by
  refine ⟨isFirstPoint_of_point? hcolumn, fun hpoint => ?_⟩
  cases hfind : point? raw column with
  | none =>
    rw [point?_eq_find?, List.find?_eq_none] at hfind
    obtain ⟨⟨⟨hleft, hright⟩, hstands⟩, -⟩ := hpoint
    exact absurd (decide_eq_true hstands) (hfind point (List.mem_range'_1.mpr (by omega)))
  | some found => rw [(isFirstPoint_of_point? hcolumn hfind).unique hpoint]

/-! ### Steps by word -/

section Word

variable (hcolumn : 1 ≤ column) (h : Encloses raw left right column)

include hcolumn h

theorem step_wordRight_of_edge (hright : column = right) :
    step raw column .wordRight = column + 1 := by
  obtain ⟨-, hedge⟩ := h.edges_eq hcolumn
  simp only [step, hedge, if_pos hright]

theorem step_wordLeft_of_edge (hleft : column = left) :
    step raw column .wordLeft = column - 1 := by
  obtain ⟨hedge, -⟩ := h.edges_eq hcolumn
  simp only [step, hedge, if_pos hleft]

theorem step_wordRight_of_point (hright : column < right)
    (hpoint : IsFirstPoint raw left right point) (hle : column ≤ point) :
    step raw column .wordRight = point + 1 := by
  obtain ⟨rfl, rfl⟩ := h.edges_eq hcolumn
  simp only [step, if_neg (Nat.ne_of_lt hright), (point?_eq_some_iff hcolumn).mpr hpoint,
    if_pos hle]

theorem step_wordLeft_of_point (hleft : left < column)
    (hpoint : IsFirstPoint raw left right point) (hlt : point < column) :
    step raw column .wordLeft = point := by
  obtain ⟨rfl, rfl⟩ := h.edges_eq hcolumn
  simp only [step, if_neg (Nat.ne_of_gt hleft), (point?_eq_some_iff hcolumn).mpr hpoint,
    if_pos hlt]

theorem step_wordRight_of_no_point (hright : column < right)
    (hnone : ∀ point, IsFirstPoint raw left right point → point < column) :
    step raw column .wordRight = right := by
  obtain ⟨rfl, rfl⟩ := h.edges_eq hcolumn
  simp only [step, if_neg (Nat.ne_of_lt hright)]
  split
  · rename_i point hpoint
    exact if_neg (Nat.not_le.mpr (hnone point ((point?_eq_some_iff hcolumn).mp hpoint)))
  · rfl

theorem step_wordLeft_of_no_point (hleft : left < column)
    (hnone : ∀ point, IsFirstPoint raw left right point → column ≤ point) :
    step raw column .wordLeft = left := by
  obtain ⟨rfl, rfl⟩ := h.edges_eq hcolumn
  simp only [step, if_neg (Nat.ne_of_gt hleft)]
  split
  · rename_i point hpoint
    exact if_neg (Nat.not_lt.mpr (hnone point ((point?_eq_some_iff hcolumn).mp hpoint)))
  · rfl

/-- A step by word to the right leads at most to the edge. -/
theorem step_wordRight_le (hright : column < right) : step raw column .wordRight ≤ right := by
  by_cases hpoint : ∃ point, IsFirstPoint raw left right point ∧ column ≤ point
  · obtain ⟨point, hfirst, hle⟩ := hpoint
    rw [step_wordRight_of_point hcolumn h hright hfirst hle]
    exact hfirst.1.1.2
  · refine Nat.le_of_eq (step_wordRight_of_no_point hcolumn h hright fun point hfirst => ?_)
    exact Nat.lt_of_not_le fun hle => hpoint ⟨point, hfirst, hle⟩

/-- A step by word to the left leads at most to the edge. -/
theorem le_step_wordLeft (hleft : left < column) : left ≤ step raw column .wordLeft := by
  by_cases hpoint : ∃ point, IsFirstPoint raw left right point ∧ point < column
  · obtain ⟨point, hfirst, hlt⟩ := hpoint
    rw [step_wordLeft_of_point hcolumn h hleft hfirst hlt]
    exact hfirst.1.1.1
  · refine Nat.le_of_eq (step_wordLeft_of_no_point hcolumn h hleft fun point hfirst => ?_).symm
    exact Nat.le_of_not_lt fun hlt => hpoint ⟨point, hfirst, hlt⟩

end Word

/-! ### Borders that are crossed -/

/-- The columns whose characters a caret passes on its way to another column. -/
def Passes (column target c : Nat) : Prop := min column target ≤ c ∧ c < max column target

theorem Encloses.no_comma_of_wordRight (h : Encloses raw left right column) (hcolumn : 1 ≤ column)
    (hright : column < right) (hc : Passes column (step raw column .wordRight) c) :
    ¬StandsAt raw ',' c := by
  have hon : column < step raw column .wordRight := lt_step (Or.inr rfl)
  obtain ⟨hle, hlt⟩ := hc
  rw [Nat.min_eq_left (Nat.le_of_lt hon)] at hle
  rw [Nat.max_eq_right (Nat.le_of_lt hon)] at hlt
  exact h.no_comma c (h.left_le.trans hle) (hlt.trans_le (step_wordRight_le hcolumn h hright))

theorem Encloses.no_comma_of_wordLeft (h : Encloses raw left right column) (hcolumn : 1 ≤ column)
    (hleft : left < column) (hc : Passes column (step raw column .wordLeft) c) :
    ¬StandsAt raw ',' c := by
  have hback : step raw column .wordLeft < column := step_lt hcolumn (Or.inr rfl)
  obtain ⟨hle, hlt⟩ := hc
  rw [Nat.min_eq_right (Nat.le_of_lt hback)] at hle
  rw [Nat.max_eq_left (Nat.le_of_lt hback)] at hlt
  exact h.no_comma c ((le_step_wordLeft hcolumn h hleft).trans hle) (hlt.trans_le h.le_right)

/-- **A step leads on by one column, or it stays in its field** and passes no comma. -/
theorem step_by_one_or (raw : Text) (hcolumn : 1 ≤ column) (m : Movement) :
    (step raw column m + 1 = column ∨ step raw column m = column + 1) ∨
      ∀ c, Passes column (step raw column m) c → ¬StandsAt raw ',' c := by
  have h := encloses_edges raw hcolumn
  cases m with
  | charLeft => exact Or.inl (Or.inl (Nat.sub_add_cancel hcolumn))
  | charRight => exact Or.inl (Or.inr rfl)
  | wordLeft =>
    rcases Nat.lt_or_eq_of_le h.left_le with hlt | heq
    · exact Or.inr fun c hc => h.no_comma_of_wordLeft hcolumn hlt hc
    · rw [step_wordLeft_of_edge hcolumn h heq.symm]
      exact Or.inl (Or.inl (Nat.sub_add_cancel hcolumn))
  | wordRight =>
    rcases Nat.lt_or_eq_of_le h.le_right with hlt | heq
    · exact Or.inr fun c hc => h.no_comma_of_wordRight hcolumn hlt hc
    · exact Or.inl (Or.inr (step_wordRight_of_edge hcolumn h heq))
  | _ =>
    -- the caret stays where it is
    refine Or.inr fun c hc => ?_
    have hnothing : min column column ≤ c ∧ c < max column column := hc
    omega

/-- **A step that passes a comma** passes nothing else, so it crosses one border at most. -/
theorem eq_of_passes_comma (hcolumn : 1 ≤ column) {c' : Nat}
    (hc : Passes column (step raw column m) c) (hcomma : StandsAt raw ',' c)
    (hc' : Passes column (step raw column m) c') : c' = c := by
  rcases step_by_one_or raw hcolumn m with hone | hnone
  · rw [Passes] at hc hc'
    omega
  · exact absurd hcomma (hnone c hc)

/-! ### Reading column by column -/

/-- The character at a column, or none beyond the text. Column 0 cannot be read. -/
def readAt (raw : Text) : Nat → Option (Option Char)
  | 0 => none
  | i + 1 => some raw[i]?

/-- Looks for the left edge from a column to the left. -/
def scanLeft (raw : Text) : Nat → Option Nat
  | 0 => some 0
  | 1 => some 1
  | left + 2 => do
    if (← readAt raw (left + 1)) = some ',' then return left + 2 else scanLeft raw (left + 1)

/-- Looks for the right edge from a column to the right, with so many columns to go. -/
def scanRight (raw : Text) (right : Nat) : Nat → Option Nat
  | 0 => some right
  | n + 1 => do
    if (← readAt raw right) = some ',' then return right else scanRight raw (right + 1) n

/-- Looks for the first point between two edges. -/
def scanPoint (raw : Text) (left right : Nat) : Option (Option Nat) :=
  (List.range' left (right - left)).findM? fun c => (readAt raw c).map (· = some '.')

/-- A step for which the text is read character by character. It fails if column 0 is read. -/
def readingStep (raw : Text) (column : Nat) (m : Movement) : Option Nat := do
  let left ← scanLeft raw column
  let right ← scanRight raw column (raw.length + 1 - column)
  let point? ← scanPoint raw left right
  return if (m = .charLeft ∨ m = .wordLeft) ∧ column = left then column - 1
    else if (m = .charRight ∨ m = .wordRight) ∧ column = right then column + 1
    else match m, point? with
      | .charLeft, _ => column - 1
      | .charRight, _ => column + 1
      | .wordLeft, some point => if point < column then point else left
      | .wordLeft, none => left
      | .wordRight, some point => if column ≤ point then point + 1 else right
      | .wordRight, none => right
      | _, _ => column

theorem readAt_eq (hcolumn : 1 ≤ column) : readAt raw column = some raw[column - 1]? := by
  obtain ⟨i, rfl⟩ := Nat.exists_eq_add_of_le' hcolumn
  rfl

theorem scanLeft_eq (raw : Text) (hcolumn : 1 ≤ column) :
    scanLeft raw column = some (leftEdge raw column) := by
  induction column, hcolumn using Nat.le_induction with
  | base => rfl
  | succ n hn ih =>
    obtain ⟨i, rfl⟩ := Nat.exists_eq_add_of_le' hn
    rw [leftEdge_succ hn, scanLeft, readAt_eq hn]
    simp only [Option.bind_eq_bind, Option.bind_some, standsAt_iff hn]
    split
    · rfl
    · exact ih

theorem scanRight_eq (raw : Text) (hcolumn : 1 ≤ column) :
    scanRight raw column (raw.length + 1 - column) = some (rightEdge raw column) := by
  induction hrest : raw.length + 1 - column generalizing column with
  | zero =>
    rw [rightEdge_of_beyond (by omega)]
    rfl
  | succ n ih =>
    have hlength : ¬raw.length < column := by omega
    rw [rightEdge_eq hcolumn, scanRight, readAt_eq hcolumn]
    simp only [Option.bind_eq_bind, Option.bind_some, standsAt_iff hcolumn, or_iff_left hlength]
    split
    · rfl
    · exact ih (Nat.le_succ_of_le hcolumn) (by omega)

theorem findM?_range'_eq (hleft : 1 ≤ left) :
    ((List.range' left n).findM? fun c => (readAt raw c).map (· = some char)) =
      some ((List.range' left n).find? fun c => StandsAt raw char c) := by
  induction n generalizing left with
  | zero => rfl
  | succ n ih =>
    rw [List.range'_succ, List.findM?, List.find?_cons, readAt_eq hleft]
    simp only [Option.bind_eq_bind, Option.bind_some, Option.map_some, standsAt_iff hleft]
    cases decide (raw[left - 1]? = some char) with
    | true => rfl
    | false => exact ih (Nat.le_succ_of_le hleft)

theorem scanPoint_edges (raw : Text) (column : Nat) :
    scanPoint raw (leftEdge raw column) (rightEdge raw column) = some (point? raw column) := by
  rw [point?_eq_find?]
  exact findM?_range'_eq (Nat.le_add_left 1 _)

/-- **Reading never fails**: no step from a column asks for the character at column 0. -/
theorem readingStep_eq (raw : Text) (hcolumn : 1 ≤ column) (m : Movement) :
    readingStep raw column m = some (step raw column m) := by
  rw [readingStep, scanLeft_eq raw hcolumn, scanRight_eq raw hcolumn]
  simp only [Option.bind_eq_bind, Option.bind_some, scanPoint_edges]
  refine congrArg some ?_
  cases m with
  | wordLeft | wordRight =>
    simp only [step, reduceCtorEq, or_true, or_self, true_and, false_and, if_false]
    cases point? raw column <;> rfl
  | _ => simp [step]

/-- From column 0 it would fail. -/
example : readingStep "1,F,45.5".toList 0 .wordRight = none := by decide

/-! ### Steps -/

/-- **Steps lead on, and cross at most one border.** There is a field around every column. Steps to
the left lead left and steps to the right lead right, those by character by one column. A step by
word to the right that does not start before a comma passes none; it stops behind the first point
of the field, if that is not passed already, and at the right edge otherwise. A step by word to the
left that does not start behind a comma passes none; it stops before the first point of the field,
if that has been passed, and at the left edge otherwise. From the edge that it leads to, a step
leads on by one column. A step that passes a comma passes nothing else, and none asks for a
character at column 0. -/
theorem step_within_field (raw : Text) (hcolumn : 2 ≤ column) :
    ((∀ m, m = .charLeft ∨ m = .wordLeft → step raw column m < column) ∧
      ∀ m, m = .charRight ∨ m = .wordRight → column < step raw column m) ∧
    (step raw column .charLeft = column - 1 ∧ step raw column .charRight = column + 1) ∧
    (∃ left right, Encloses raw left right column) ∧
    (∀ left right, Encloses raw left right column →
      (column ≤ raw.length → ¬StandsAt raw ',' column →
        (∀ c, Passes column (step raw column .wordRight) c → ¬StandsAt raw ',' c) ∧
        (∀ point, IsFirstPoint raw left right point → column ≤ point →
          step raw column .wordRight = point + 1) ∧
        ((∀ point, IsFirstPoint raw left right point → point < column) →
          step raw column .wordRight = right)) ∧
      (¬StandsAt raw ',' (column - 1) →
        (∀ c, Passes column (step raw column .wordLeft) c → ¬StandsAt raw ',' c) ∧
        (∀ point, IsFirstPoint raw left right point → point < column →
          step raw column .wordLeft = point) ∧
        ((∀ point, IsFirstPoint raw left right point → column ≤ point) →
          step raw column .wordLeft = left)) ∧
      (column = right → step raw column .wordRight = column + 1) ∧
      (column = left → step raw column .wordLeft = column - 1)) ∧
    (∀ m c, Passes column (step raw column m) c → StandsAt raw ',' c →
      ∀ c', Passes column (step raw column m) c' → c' = c) ∧
    ∀ m, readingStep raw column m = some (step raw column m) := by
  have hpos : 1 ≤ column := Nat.one_le_of_lt hcolumn
  refine ⟨⟨fun m hm => step_lt hpos hm, fun m hm => lt_step hm⟩, ⟨rfl, rfl⟩,
    ⟨_, _, encloses_edges raw hpos⟩, fun left right h => ⟨?_, ?_, ?_, ?_⟩, ?_,
    readingStep_eq raw hpos⟩
  · intro hlength hcomma
    have hright := h.lt_right hcomma hlength
    exact ⟨fun c hc => h.no_comma_of_wordRight hpos hright hc,
      fun point hpoint hle => step_wordRight_of_point hpos h hright hpoint hle,
      step_wordRight_of_no_point hpos h hright⟩
  · intro hcomma
    have hleft := h.left_lt hcolumn hcomma
    exact ⟨fun c hc => h.no_comma_of_wordLeft hpos hleft hc,
      fun point hpoint hlt => step_wordLeft_of_point hpos h hleft hpoint hlt,
      step_wordLeft_of_no_point hpos h hleft⟩
  · exact step_wordRight_of_edge hpos h
  · exact step_wordLeft_of_edge hpos h
  · intro m c hc hcomma c' hc'
    exact eq_of_passes_comma hpos hc hcomma hc'

/-- From the middle of an angle the point lies to the right and only the edge to the left. -/
theorem step_within_field_of_angle :
    2 ≤ 9 ∧ Encloses "   1,F,45.5,1".toList 8 12 9 ∧
      IsFirstPoint "   1,F,45.5,1".toList 8 12 10 ∧
      step "   1,F,45.5,1".toList 9 .wordRight = 11 ∧
      step "   1,F,45.5,1".toList 9 .wordLeft = 8 := by
  have hfield : Encloses "   1,F,45.5,1".toList 8 12 9 :=
    encloses_edges _ (by decide : 1 ≤ 9)
  have hpoint : IsFirstPoint "   1,F,45.5,1".toList 8 12 10 :=
    isFirstPoint_of_point? (by decide : 1 ≤ 9) (by decide)
  obtain ⟨-, -, -, hsteps, -⟩ := step_within_field "   1,F,45.5,1".toList (by decide : 2 ≤ 9)
  obtain ⟨hright, hleft, -⟩ := hsteps 8 12 hfield
  refine ⟨by decide, hfield, hpoint, ?_, ?_⟩
  · exact (hright (by decide) (by decide)).2.1 10 hpoint (by decide)
  · refine (hleft (by decide)).2.2 fun point hfirst => ?_
    rw [hfirst.unique hpoint]
    decide

end Payload

end FrameScript
