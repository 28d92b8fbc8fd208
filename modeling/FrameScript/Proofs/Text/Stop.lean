import FrameScript.Text.Column
import FrameScript.Text.WordStop

/-!
# Stops of a line

A step through a line asks for the next stop on one side of a column: a boundary of clusters, or
the start of a word or an end of the line. Boundaries of clusters lie in the line, both of its ends
among them. So there is no stop only at the end of the line on the side that is asked about.

## Main results

* `Text.mem_of_mem_clusterStops`, `Text.endColumn_mem_clusterStops` — where boundaries lie
* `Text.nextClusterStop?_eq_none_iff`, `Text.prevClusterStop?_eq_none_iff`,
  `Text.nextWordStop?_eq_none_iff`, `Text.prevWordStop?_eq_none_iff` — where there is no stop
* `Text.columnAtCell_mem_clusterStops` — a display cell leads to a boundary of clusters
-/

namespace FrameScript

namespace Text

variable {line : Text} {column stop : Nat}

/-! ### Boundaries of clusters -/

theorem mem_of_mem_stopsFrom {clusters : List Text} (h : stop ∈ stopsFrom column clusters) :
    column ≤ stop ∧ stop ≤ column + clusters.flatten.length := by
  induction clusters generalizing column with
  | nil =>
    rw [stopsFrom, List.mem_singleton] at h
    subst h
    exact ⟨Nat.le_refl _, Nat.le_refl _⟩
  | cons cluster rest ih =>
    rw [List.flatten_cons, List.length_append]
    rcases List.mem_cons.mp h with rfl | h
    · exact ⟨Nat.le_refl _, Nat.le_add_right ..⟩
    · have := ih h
      omega

/-- The slot after the last cluster is a stop. -/
theorem end_mem_stopsFrom (column : Nat) (clusters : List Text) :
    column + clusters.flatten.length ∈ stopsFrom column clusters := by
  induction clusters generalizing column with
  | nil => exact List.mem_singleton.mpr rfl
  | cons cluster rest ih =>
    rw [List.flatten_cons, List.length_append, ← Nat.add_assoc]
    exact List.mem_cons_of_mem _ (ih (column + cluster.length))

theorem mem_of_mem_clusterStops (h : stop ∈ line.clusterStops) :
    1 ≤ stop ∧ stop ≤ line.endColumn := by
  have hbounds := mem_of_mem_stopsFrom h
  rw [display.flatten line] at hbounds
  rw [endColumn]
  omega

theorem endColumn_mem_clusterStops (line : Text) : line.endColumn ∈ line.clusterStops := by
  have hend := end_mem_stopsFrom 1 (clusters line)
  rwa [display.flatten line, Nat.add_comm] at hend

/-- Only at the end of the line there is no boundary further right. -/
theorem nextClusterStop?_eq_none_iff :
    line.nextClusterStop? column = none ↔ line.endColumn ≤ column := by
  rw [nextClusterStop?, List.find?_eq_none]
  constructor
  · intro h
    exact Nat.not_lt.mp fun hlt => h _ (endColumn_mem_clusterStops line) (decide_eq_true hlt)
  · intro h stop hstop
    have := mem_of_mem_clusterStops hstop
    rw [decide_eq_true_iff]
    omega

/-- Only at column 1 there is no boundary further left. -/
theorem prevClusterStop?_eq_none_iff : line.prevClusterStop? column = none ↔ column ≤ 1 := by
  rw [prevClusterStop?, List.find?_eq_none]
  constructor
  · intro h
    exact Nat.not_lt.mp fun hlt =>
      h _ (List.mem_reverse.mpr (one_mem_clusterStops line)) (decide_eq_true hlt)
  · intro h stop hstop
    have := mem_of_mem_clusterStops (List.mem_reverse.mp hstop)
    rw [decide_eq_true_iff]
    omega

/-! ### Display cells -/

theorem nearestFrom_mem_stopsFrom (x column cell : Nat) (clusters : List Text) :
    nearestFrom x column cell clusters ∈ stopsFrom column clusters := by
  induction clusters generalizing column cell with
  | nil => exact List.mem_singleton.mpr rfl
  | cons cluster rest ih =>
    simp only [nearestFrom]
    split
    · exact List.mem_cons_self ..
    · exact List.mem_cons_of_mem _ (ih _ _)

theorem columnAtCell_mem_clusterStops (line : Text) (x : Nat) :
    line.columnAtCell x ∈ line.clusterStops :=
  nearestFrom_mem_stopsFrom ..

/-! ### Words -/

/-- Only at the end of the line there is no word stop further right. -/
theorem nextWordStop?_eq_none_iff :
    line.nextWordStop? column = none ↔ line.endColumn ≤ column := by
  simp only [nextWordStop?, endColumn]
  split <;> simp_all

/-- Only at column 1 there is no word stop further left. -/
theorem prevWordStop?_eq_none_iff : line.prevWordStop? column = none ↔ column ≤ 1 := by
  simp only [prevWordStop?]
  split <;> simp_all

end Text

end FrameScript
