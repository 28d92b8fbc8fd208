import FrameScript.Proofs.Text.Stop
import Mathlib.Order.Bounds.Basic

/-!
# Walking along the stops of a line

A line is searched for its next stop from the left and for its previous stop from the right, by
loops with bounds of their own. What makes them each other's inverse is that both look for their
answer in the same set: the next stop is the least one further right, the previous stop is the
greatest one further left. That contract is stated once and met twice, by the boundaries of clusters
and by the stops between words.

## Main definitions

* `Text.WalksAlong` — two searches find the neighbours in a set of stops
* `Text.IsWordStop` — where words begin, and the ends of the line

## Main results

* `Text.WalksAlong.prev_next`, `Text.WalksAlong.next_prev` — from a stop each search undoes the
  other
* `Text.WalksAlong.subset_of_next`, `Text.WalksAlong.subset_of_prev` — who stays among some stops
  has no others
* `Text.walksAlong_clusterStops`, `Text.walksAlong_wordStops` — both pairs of searches do so
* `Text.word_stops_exact` — which stops between words are found, from every column
-/

namespace FrameScript

namespace Text

variable {text : Text} {column stop found : Nat}

/-! ### Searches in sorted lists -/

section Search

variable {columns : List Nat} {p : Nat → Bool} {default : Nat}

/-- What is found first stands before everything else that could have been found. -/
theorem eq_or_of_find? {R : Nat → Nat → Prop} (hsorted : columns.Pairwise R)
    (h : columns.find? p = some found) (hmem : stop ∈ columns) (hstop : p stop = true) :
    found = stop ∨ R found stop := by
  obtain ⟨-, before, after, rfl, hbefore⟩ := List.find?_eq_some_iff_append.mp h
  rcases List.mem_append.mp hmem with hmem | hmem
  · have hno := hbefore stop hmem
    rw [hstop] at hno
    cases hno
  · rcases List.mem_cons.mp hmem with rfl | hmem
    · exact Or.inl rfl
    · have htail := (List.pairwise_append.mp hsorted).2.1
      exact Or.inr (List.rel_of_pairwise_cons htail hmem)

theorem isLeast_of_find? (hsorted : columns.Pairwise (· < ·)) (h : columns.find? p = some found) :
    IsLeast {stop | stop ∈ columns ∧ p stop = true} found := by
  refine ⟨⟨List.mem_of_find?_eq_some h, List.find?_some h⟩, ?_⟩
  rintro stop ⟨hmem, hstop⟩
  rcases eq_or_of_find? hsorted h hmem hstop with rfl | hlt
  · exact Nat.le_refl _
  · exact Nat.le_of_lt hlt

theorem isGreatest_of_find?_reverse (hsorted : columns.Pairwise (· < ·))
    (h : columns.reverse.find? p = some found) :
    IsGreatest {stop | stop ∈ columns ∧ p stop = true} found := by
  refine ⟨⟨List.mem_reverse.mp (List.mem_of_find?_eq_some h), List.find?_some h⟩, ?_⟩
  rintro stop ⟨hmem, hstop⟩
  rcases eq_or_of_find? (List.pairwise_reverse.mpr hsorted) h (List.mem_reverse.mpr hmem) hstop with
    rfl | hlt
  · exact Nat.le_refl _
  · exact Nat.le_of_lt hlt

/-- A search that falls back on a column behind all others still finds the least. -/
theorem isLeast_getD_find? (hsorted : columns.Pairwise (· < ·))
    (hdefault : ∀ stop ∈ columns, stop < default) :
    IsLeast {stop | stop = default ∨ stop ∈ columns ∧ p stop = true}
      ((columns.find? p).getD default) := by
  cases hfind : columns.find? p with
  | none =>
    refine ⟨Or.inl rfl, ?_⟩
    rintro stop (rfl | ⟨hmem, hstop⟩)
    · exact Nat.le_refl _
    · exact absurd hstop (List.find?_eq_none.mp hfind stop hmem)
  | some found =>
    obtain ⟨hfound, hleast⟩ := isLeast_of_find? hsorted hfind
    refine ⟨Or.inr hfound, ?_⟩
    rintro stop (rfl | hstop)
    · exact Nat.le_of_lt (hdefault found hfound.1)
    · exact hleast hstop

theorem isGreatest_getD_find?_reverse (hsorted : columns.Pairwise (· < ·))
    (hdefault : ∀ stop ∈ columns, default < stop) :
    IsGreatest {stop | stop = default ∨ stop ∈ columns ∧ p stop = true}
      ((columns.reverse.find? p).getD default) := by
  cases hfind : columns.reverse.find? p with
  | none =>
    refine ⟨Or.inl rfl, ?_⟩
    rintro stop (rfl | ⟨hmem, hstop⟩)
    · exact Nat.le_refl _
    · exact absurd hstop (List.find?_eq_none.mp hfind stop (List.mem_reverse.mpr hmem))
  | some found =>
    obtain ⟨hfound, hgreatest⟩ := isGreatest_of_find?_reverse hsorted hfind
    refine ⟨Or.inr hfound, ?_⟩
    rintro stop (rfl | hstop)
    · exact Nat.le_of_lt (hdefault found hfound.1)
    · exact hgreatest hstop

end Search

/-! ### Two searches over one set of stops -/

/-- Two searches find the neighbours in a set of stops between column 1 and a last column. The
search to the right may be asked from column 1 on, the search to the left up to the last column. -/
structure WalksAlong (stops : Set Nat) (last : Nat) (next? prev? : Nat → Option Nat) : Prop where
  bounds : ∀ stop ∈ stops, 1 ≤ stop ∧ stop ≤ last
  next?_eq_none_iff : ∀ column, next? column = none ↔ last ≤ column
  isLeast_next : ∀ column stop, 1 ≤ column → next? column = some stop →
    IsLeast {s | s ∈ stops ∧ column < s} stop
  prev?_eq_none_iff : ∀ column, prev? column = none ↔ column ≤ 1
  isGreatest_prev : ∀ column stop, column ≤ last → prev? column = some stop →
    IsGreatest {s | s ∈ stops ∧ s < column} stop

namespace WalksAlong

variable {stops stops' : Set Nat} {last : Nat} {next? prev? next?' prev?' : Nat → Option Nat}

/-- What is found to the right lies there, and there is nothing only at the last column. -/
theorem next_within (h : WalksAlong stops last next? prev?) (hone : 1 ≤ column)
    (hlast : column ≤ last) : (∀ stop ∈ next? column, column < stop ∧ stop ≤ last) ∧
      (next? column = none → column = last) := by
  refine ⟨fun stop hnext => ?_, fun hnone => ?_⟩
  · have hstop := (h.isLeast_next column stop hone hnext).1
    exact ⟨hstop.2, (h.bounds stop hstop.1).2⟩
  · exact Nat.le_antisymm hlast ((h.next?_eq_none_iff column).mp hnone)

theorem prev_within (h : WalksAlong stops last next? prev?) (hone : 1 ≤ column)
    (hlast : column ≤ last) : (∀ stop ∈ prev? column, 1 ≤ stop ∧ stop < column) ∧
      (prev? column = none → column = 1) := by
  refine ⟨fun stop hprev => ?_, fun hnone => ?_⟩
  · have hstop := (h.isGreatest_prev column stop hlast hprev).1
    exact ⟨(h.bounds stop hstop.1).1, hstop.2⟩
  · exact Nat.le_antisymm ((h.prev?_eq_none_iff column).mp hnone) hone

/-- Before the last column there is a next stop. -/
theorem exists_next (h : WalksAlong stops last next? prev?) (hone : 1 ≤ column)
    (hlast : column < last) :
    ∃ stop, next? column = some stop ∧ IsLeast {s | s ∈ stops ∧ column < s} stop := by
  cases hnext : next? column with
  | none => exact absurd ((h.next?_eq_none_iff column).mp hnext) (Nat.not_le.mpr hlast)
  | some stop => exact ⟨stop, rfl, h.isLeast_next column stop hone hnext⟩

/-- Behind column 1 there is a previous stop. -/
theorem exists_prev (h : WalksAlong stops last next? prev?) (hone : 1 < column)
    (hlast : column ≤ last) :
    ∃ stop, prev? column = some stop ∧ IsGreatest {s | s ∈ stops ∧ s < column} stop := by
  cases hprev : prev? column with
  | none => exact absurd ((h.prev?_eq_none_iff column).mp hprev) (Nat.not_le.mpr hone)
  | some stop => exact ⟨stop, rfl, h.isGreatest_prev column stop hlast hprev⟩

/-- **Going right and then left** leads back to a stop. -/
theorem prev_next (h : WalksAlong stops last next? prev?) (hstop : stop ∈ stops)
    (hlast : stop < last) :
    ∃ s, next? stop = some s ∧ stop < s ∧ s ≤ last ∧ prev? s = some stop := by
  have hone := (h.bounds stop hstop).1
  obtain ⟨s, hnext, hleast⟩ := h.exists_next hone hlast
  have hle := (h.bounds s hleast.1.1).2
  obtain ⟨s', hprev, hgreatest⟩ := h.exists_prev (Nat.lt_of_le_of_lt hone hleast.1.2) hle
  have hback : IsGreatest {s' | s' ∈ stops ∧ s' < s} stop := by
    refine ⟨⟨hstop, hleast.1.2⟩, fun s' hs' => Nat.not_lt.mp fun hlt => ?_⟩
    exact absurd (hleast.2 ⟨hs'.1, hlt⟩) (Nat.not_le.mpr hs'.2)
  rw [hgreatest.unique hback] at hprev
  exact ⟨s, hnext, hleast.1.2, hle, hprev⟩

/-- **Going left and then right** leads back to a stop. -/
theorem next_prev (h : WalksAlong stops last next? prev?) (hstop : stop ∈ stops)
    (hone : 1 < stop) : ∃ s, prev? stop = some s ∧ 1 ≤ s ∧ s < stop ∧ next? s = some stop := by
  have hlast := (h.bounds stop hstop).2
  obtain ⟨s, hprev, hgreatest⟩ := h.exists_prev hone hlast
  have hle := (h.bounds s hgreatest.1.1).1
  obtain ⟨s', hnext, hleast⟩ := h.exists_next hle (Nat.lt_of_lt_of_le hgreatest.1.2 hlast)
  have hback : IsLeast {s' | s' ∈ stops ∧ s < s'} stop := by
    refine ⟨⟨hstop, hgreatest.1.2⟩, fun s' hs' => Nat.not_lt.mp fun hlt => ?_⟩
    exact absurd (hgreatest.2 ⟨hs'.1, hlt⟩) (Nat.not_le.mpr hs'.2)
  rw [hleast.unique hback] at hnext
  exact ⟨s, hprev, hle, hgreatest.1.2, hnext⟩

/-- Whoever goes right along other stops and stays among these has no others: a stop that these do
not have would be the first one right of the last of these before it. -/
theorem subset_of_next (h : WalksAlong stops last next? prev?)
    (h' : WalksAlong stops' last next?' prev?') (hone : 1 ∈ stops)
    (hkept : ∀ column ∈ stops, ∀ stop, next?' column = some stop → stop ∈ stops) :
    stops' ⊆ stops := by
  intro stop hstop
  have hbounds := h'.bounds stop hstop
  rcases Nat.lt_or_eq_of_le hbounds.1 with hlt | rfl
  · obtain ⟨before, -, hbefore⟩ := h.exists_prev hlt hbounds.2
    have hin := h.bounds before hbefore.1.1
    obtain ⟨s, hnext, hleast⟩ :=
      h'.exists_next hin.1 (Nat.lt_of_lt_of_le hbefore.1.2 hbounds.2)
    have hs : s ∈ stops := hkept before hbefore.1.1 s hnext
    have hle : s ≤ stop := hleast.2 ⟨hstop, hbefore.1.2⟩
    rcases Nat.lt_or_eq_of_le hle with hless | rfl
    · exact absurd (hbefore.2 ⟨hs, hless⟩) (Nat.not_le.mpr hleast.1.2)
    · exact hs
  · exact hone

/-- The same to the left. -/
theorem subset_of_prev (h : WalksAlong stops last next? prev?)
    (h' : WalksAlong stops' last next?' prev?') (hlast : last ∈ stops)
    (hkept : ∀ column ∈ stops, ∀ stop, prev?' column = some stop → stop ∈ stops) :
    stops' ⊆ stops := by
  intro stop hstop
  have hbounds := h'.bounds stop hstop
  rcases Nat.lt_or_eq_of_le hbounds.2 with hlt | rfl
  · obtain ⟨after, -, hafter⟩ := h.exists_next hbounds.1 hlt
    have hin := h.bounds after hafter.1.1
    obtain ⟨s, hprev, hgreatest⟩ :=
      h'.exists_prev (Nat.lt_of_le_of_lt hbounds.1 hafter.1.2) hin.2
    have hs : s ∈ stops := hkept after hafter.1.1 s hprev
    have hle : stop ≤ s := hgreatest.2 ⟨hstop, hafter.1.2⟩
    rcases Nat.lt_or_eq_of_le hle with hless | rfl
    · exact absurd (hafter.2 ⟨hs, hless⟩) (Nat.not_le.mpr hgreatest.1.2)
    · exact hs
  · exact hlast

end WalksAlong

/-! ### Boundaries of clusters -/

/-- Clusters are not empty, so that each begins further right than the one before it. -/
theorem pairwise_stopsFrom {clusters : List Text} (hne : ∀ cluster ∈ clusters, cluster ≠ []) :
    (stopsFrom column clusters).Pairwise (· < ·) := by
  induction clusters generalizing column with
  | nil => exact List.pairwise_singleton _ _
  | cons cluster rest ih =>
    refine List.pairwise_cons.mpr ⟨fun stop hstop => ?_,
      ih fun other hother => hne other (List.mem_cons_of_mem cluster hother)⟩
    have hpos := List.length_pos_iff.mpr (hne cluster List.mem_cons_self)
    have hle := (mem_of_mem_stopsFrom hstop).1
    omega

theorem pairwise_clusterStops (text : Text) : text.clusterStops.Pairwise (· < ·) :=
  pairwise_stopsFrom fun _ => display.ne_nil

/-- **The searches for boundaries of clusters** find the neighbours among these boundaries. -/
theorem walksAlong_clusterStops (text : Text) :
    WalksAlong {stop | stop ∈ text.clusterStops} text.endColumn text.nextClusterStop?
      text.prevClusterStop? where
  bounds _ := mem_of_mem_clusterStops
  next?_eq_none_iff _ := nextClusterStop?_eq_none_iff
  isLeast_next column stop _ h := by
    have hleast := isLeast_of_find? (pairwise_clusterStops text) h
    simp only [decide_eq_true_eq] at hleast
    exact hleast
  prev?_eq_none_iff _ := prevClusterStop?_eq_none_iff
  isGreatest_prev column stop _ h := by
    have hgreatest := isGreatest_of_find?_reverse (pairwise_clusterStops text) h
    simp only [decide_eq_true_eq] at hgreatest
    exact hgreatest

/-! ### Stops between words -/

/-- A stop of movements by words: column 1, the slot after the last character, and every column
where a visible character follows one of another class. -/
def IsWordStop (text : Text) (column : Nat) : Prop :=
  column = 1 ∨ column = text.endColumn ∨ ∃ before c, 2 ≤ column ∧
    text[column - 2]? = some before ∧ text[column - 1]? = some c ∧
      WordClass.of c ≠ .blank ∧ WordClass.of c ≠ WordClass.of before

/-- Behind column 1 a word begins where the class changes. -/
theorem beginsWord_iff (htwo : 2 ≤ column) :
    beginsWord text column = true ↔ ∃ before c, text[column - 2]? = some before ∧
      text[column - 1]? = some c ∧ WordClass.of c ≠ .blank ∧
        WordClass.of c ≠ WordClass.of before := by
  have hne : column ≠ 1 := by omega
  rw [beginsWord]
  cases hc : text[column - 1]? with
  | none => simp
  | some c =>
    have hlt := (List.getElem?_eq_some_iff.mp hc).1
    rw [List.getElem?_eq_getElem (show column - 2 < text.length by omega)]
    simp only [hne, decide_false, Bool.false_or, Bool.and_eq_true, decide_eq_true_eq,
      Option.map_some, Option.some.injEq, ne_eq, exists_and_left, exists_eq_left']
    exact and_congr_right fun _ => ne_comm

theorem isWordStop_iff : text.IsWordStop column ↔ column = 1 ∨ column = text.endColumn ∨
    2 ≤ column ∧ column ≤ text.length ∧ beginsWord text column = true := by
  refine or_congr_right (or_congr_right ?_)
  constructor
  · rintro ⟨before, c, htwo, hbefore, hc, hword⟩
    have hlt := (List.getElem?_eq_some_iff.mp hc).1
    exact ⟨htwo, by omega, (beginsWord_iff htwo).mpr ⟨before, c, hbefore, hc, hword⟩⟩
  · rintro ⟨htwo, -, hbegins⟩
    obtain ⟨before, c, hword⟩ := (beginsWord_iff htwo).mp hbegins
    exact ⟨before, c, htwo, hword⟩

theorem isLeast_of_nextWordStop? (hone : 1 ≤ column) (h : text.nextWordStop? column = some stop) :
    IsLeast {s | text.IsWordStop s ∧ column < s} stop := by
  have hlt : column < text.endColumn := by
    rw [← Nat.not_le, ← nextWordStop?_eq_none_iff, h]
    exact Option.some_ne_none stop
  rw [endColumn] at hlt
  rw [nextWordStop?, if_neg (Nat.not_le.mpr hlt), Option.some.injEq, Nat.max_eq_left hone] at h
  have hends : ∀ s ∈ List.range' (column + 1) (text.length + 1 - (column + 1)),
      s < text.length + 1 := by
    intro s hs
    rw [List.mem_range'_1] at hs
    omega
  have hleast := isLeast_getD_find? (p := beginsWord text) List.pairwise_lt_range' hends
  rw [h] at hleast
  convert hleast using 1
  ext s
  simp only [Set.mem_ofPred_eq, isWordStop_iff, endColumn, List.mem_range'_1]
  grind

theorem isGreatest_of_prevWordStop? (hlast : column ≤ text.endColumn)
    (h : text.prevWordStop? column = some stop) :
    IsGreatest {s | text.IsWordStop s ∧ s < column} stop := by
  have hlt : 1 < column := by
    rw [← Nat.not_le, ← prevWordStop?_eq_none_iff, h]
    exact Option.some_ne_none stop
  rw [endColumn] at hlast
  rw [prevWordStop?, if_neg (Nat.not_le.mpr hlt), Option.some.injEq, Nat.min_eq_left hlast] at h
  have hstarts : ∀ s ∈ List.range' 2 (column - 2), 1 < s := by
    intro s hs
    rw [List.mem_range'_1] at hs
    omega
  have hgreatest :=
    isGreatest_getD_find?_reverse (p := beginsWord text) List.pairwise_lt_range' hstarts
  rw [h] at hgreatest
  convert hgreatest using 1
  ext s
  simp only [Set.mem_ofPred_eq, isWordStop_iff, endColumn, List.mem_range'_1]
  grind

theorem bounds_of_isWordStop (h : text.IsWordStop stop) : 1 ≤ stop ∧ stop ≤ text.endColumn := by
  rw [isWordStop_iff, endColumn] at h
  rw [endColumn]
  omega

/-- **The searches for words** find the neighbours among the stops between words. -/
theorem walksAlong_wordStops (text : Text) :
    WalksAlong {stop | text.IsWordStop stop} text.endColumn text.nextWordStop?
      text.prevWordStop? where
  bounds _ := bounds_of_isWordStop
  next?_eq_none_iff _ := nextWordStop?_eq_none_iff
  isLeast_next _ _ := isLeast_of_nextWordStop?
  prev?_eq_none_iff _ := prevWordStop?_eq_none_iff
  isGreatest_prev _ _ := isGreatest_of_prevWordStop?

/-- Beyond the end of a line that is not empty, the search to the left begins at its end. -/
theorem prevWordStop?_of_endColumn_lt (hne : 1 ≤ text.length) (h : text.endColumn < column) :
    text.prevWordStop? column = text.prevWordStop? text.endColumn := by
  rw [endColumn] at h ⊢
  rw [prevWordStop?, prevWordStop?, if_neg (by omega), if_neg (by omega),
    Nat.min_eq_right (Nat.le_of_lt h), Nat.min_self]

/-- **The stops between words are found exactly.** From every column of the line the search to the
right gives the least stop behind it, and only at the end of the line there is none. The search to
the left gives the greatest stop before the column, there is none at column 1 only, and from beyond
the end of a line that is not empty it gives what it gives at the end. So from a stop each search is
undone by the other. -/
theorem word_stops_exact (text : Text) :
    (∀ column, 1 ≤ column → column ≤ text.length →
      ∃ stop, text.nextWordStop? column = some stop ∧
        IsLeast {s | text.IsWordStop s ∧ column < s} stop) ∧
    (∀ column, text.nextWordStop? column = none ↔ text.length + 1 ≤ column) ∧
    (∀ column, 2 ≤ column → column ≤ text.length + 1 →
      ∃ stop, text.prevWordStop? column = some stop ∧
        IsGreatest {s | text.IsWordStop s ∧ s < column} stop) ∧
    (∀ column, text.prevWordStop? column = none ↔ column ≤ 1) ∧
    (1 ≤ text.length → ∀ column, text.length + 1 < column →
      text.prevWordStop? column = text.prevWordStop? (text.length + 1)) ∧
    (∀ stop, text.IsWordStop stop → stop ≤ text.length →
      (text.nextWordStop? stop).bind text.prevWordStop? = some stop) ∧
    ∀ stop, text.IsWordStop stop → 2 ≤ stop →
      (text.prevWordStop? stop).bind text.nextWordStop? = some stop := by
  have hwalk := walksAlong_wordStops text
  refine ⟨fun column hone hle => hwalk.exists_next hone (Nat.lt_succ_of_le hle),
    hwalk.next?_eq_none_iff, fun column htwo hle => hwalk.exists_prev htwo hle,
    hwalk.prev?_eq_none_iff, fun hne column hbeyond => prevWordStop?_of_endColumn_lt hne hbeyond,
    fun stop hstop hle => ?_, fun stop hstop htwo => ?_⟩
  · obtain ⟨s, hnext, -, -, hback⟩ := hwalk.prev_next hstop (Nat.lt_succ_of_le hle)
    rw [hnext, Option.bind_some, hback]
  · obtain ⟨s, hprev, -, -, hback⟩ := hwalk.next_prev hstop htwo
    rw [hprev, Option.bind_some, hback]

/-- From the middle of a word with letters of two alphabets, a digit and an underscore: the comma
behind it begins the next run, and the search from there leads back to the start of the line. -/
theorem word_stops_around_comma :
    Text.nextWordStop? "語é_1, two".toList 2 = some 5 ∧
      IsLeast {s | Text.IsWordStop "語é_1, two".toList s ∧ 2 < s} 5 ∧
      IsGreatest {s | Text.IsWordStop "語é_1, two".toList s ∧ s < 5} 1 ∧
      (Text.nextWordStop? "語é_1, two".toList 5).bind (Text.prevWordStop? "語é_1, two".toList) =
        some 5 ∧
      Text.prevWordStop? "語é_1, two".toList 40 = some 7 := by
  obtain ⟨hright, -, hleft, -, hbeyond, hback, -⟩ := word_stops_exact "語é_1, two".toList
  have hnext : Text.nextWordStop? "語é_1, two".toList 2 = some 5 := by decide +kernel
  obtain ⟨stop, hstop, hleast⟩ := hright 2 (by decide) (by decide)
  obtain rfl : stop = 5 := Option.some.inj (hstop.symm.trans hnext)
  obtain ⟨start, hstart, hgreatest⟩ := hleft 5 (by decide) (by decide)
  obtain rfl : start = 1 :=
    Option.some.inj (hstart.symm.trans (show _ = some 1 by decide +kernel))
  refine ⟨hnext, hleast, hgreatest, hback 5 hleast.1.1 (by decide), ?_⟩
  rw [hbeyond (by decide) 40 (by decide)]
  decide +kernel

end Text

end FrameScript
