import FrameScript.Proofs.Text.Stop
import Mathlib.Data.Nat.Dist

/-!
# The boundary nearest to a display cell

A vertical movement comes to a line with a cell and has to find a boundary of clusters for it. The
search walks along the clusters once and stops before the first of which the cell lies in the left
half. What it finds is nevertheless the nearest boundary of the whole line, whatever the clusters
take: no cell, as a mark on its own does, one or two, or any other number. The cluster that was
passed last is enough to rule out all boundaries further left, since cells only add up, and the
first that was not passed rules out all boundaries further right.

Clusters that take no cells put several boundaries into one cell. Of these the search finds the last
if the cell that is looked for has come so far, and otherwise the first.

## Main definitions

* `Text.clusterCells` — the cells of clusters, each measured on its own
* `Text.StopsAt` — a boundary of clusters, by its column and its cell
* `Text.NearestStop` — the boundary that is to be found
* `Text.NoWorse` — one boundary against another

## Main results

* `Text.exists_split_of_nearestFrom` — where the search stops
* `Text.noWorse_of_passed`, `Text.noWorse_of_stop` — against any other boundary
* `Text.nearestStop_columnAtCell` — it stops at the nearest boundary
* `Text.columnAtCell_le_columnAtCell` — further right for cells further right
* `Text.columnAtCell_clusterCells` — from the cell of a boundary it leads back there
* `Text.cell_leads_to_nearest_stop` — all of it
-/

namespace FrameScript

namespace Text

variable {line : Text} {x y column cell : Nat} {before after : List Text}

/-! ### Cells of boundaries -/

/-- The cells of clusters side by side, each of them measured on its own. -/
def clusterCells : List Text → Nat
  | [] => 0
  | cluster :: rest => cells cluster + clusterCells rest

theorem clusterCells_append (before after : List Text) :
    clusterCells (before ++ after) = clusterCells before + clusterCells after := by
  induction before with
  | nil => exact (Nat.zero_add _).symm
  | cons cluster rest ih =>
    rw [List.cons_append, clusterCells, clusterCells, ih, Nat.add_assoc]

/-- There is a boundary of clusters at the column, and the clusters before it take so many cells. -/
def StopsAt (line : Text) (column cell : Nat) : Prop :=
  ∃ before after, clusters line = before ++ after ∧
    column = before.flatten.length + 1 ∧ cell = clusterCells before

/-- A boundary in a cell, with all the others no nearer to `x`: of two cells equally near it is in
the one on the right, and of several boundaries in one cell it is the last if `x` has reached that
cell, and the first if it has not. -/
structure NearestStop (line : Text) (x column cell : Nat) : Prop where
  stopsAt : line.StopsAt column cell
  nearest : ∀ column' cell', line.StopsAt column' cell' → Nat.dist x cell ≤ Nat.dist x cell'
  right : ∀ column' cell', line.StopsAt column' cell' → Nat.dist x cell' = Nat.dist x cell →
    cell' ≤ cell
  last : cell ≤ x → ∀ column', line.StopsAt column' cell → column' ≤ column
  first : x < cell → ∀ column', line.StopsAt column' cell → column ≤ column'

/-! ### The search -/

/-- **The search** has passed the cluster before the boundary where it stops, unless there is none,
and has not passed the one behind it. -/
theorem exists_split_of_nearestFrom (x column cell : Nat) (clusters : List Text) :
    ∃ before after, clusters = before ++ after ∧
      nearestFrom x column cell clusters = column + before.flatten.length ∧
      (∀ first cluster, before = first ++ [cluster] →
        cell + clusterCells first + (cells cluster + 1) / 2 ≤ x) ∧
      ∀ cluster ∈ after.head?, x < cell + clusterCells before + (cells cluster + 1) / 2 := by
  induction clusters generalizing column cell with
  | nil =>
    refine ⟨[], [], rfl, rfl, fun first cluster h => ?_, fun cluster h => ?_⟩
    · exact absurd h.symm (List.append_ne_nil_of_right_ne_nil _ (List.cons_ne_nil _ _))
    · cases h
  | cons cluster rest ih =>
    rw [nearestFrom]
    by_cases hleft : x < cell + (cells cluster + 1) / 2
    · refine ⟨[], cluster :: rest, rfl, if_pos hleft, fun first cluster h => ?_, fun other h => ?_⟩
      · exact absurd h.symm (List.append_ne_nil_of_right_ne_nil _ (List.cons_ne_nil _ _))
      · cases h
        exact hleft
    · obtain ⟨before, after, rfl, hfound, hpassed, hstop⟩ :=
        ih (column + cluster.length) (cell + cells cluster)
      refine ⟨cluster :: before, after, rfl, ?_, fun first last h => ?_, fun other h => ?_⟩
      · rw [if_neg hleft, hfound, List.flatten_cons, List.length_append, Nat.add_assoc]
      · rcases List.cons_eq_append_iff.mp h with ⟨rfl, hlast⟩ | ⟨first', rfl, rfl⟩
        · cases hlast
          exact Nat.le_of_not_lt hleft
        · have hle := hpassed first' last rfl
          rw [clusterCells]
          omega
      · have hlt := hstop other h
        rw [clusterCells]
        omega

/-- Clusters are passed up to the cell that they take. -/
theorem nearestFrom_append (hcell : cell + clusterCells before ≤ x) :
    nearestFrom x column cell (before ++ after) =
      nearestFrom x (column + before.flatten.length) (cell + clusterCells before) after := by
  induction before generalizing column cell with
  | nil => rfl
  | cons cluster rest ih =>
    rw [clusterCells] at hcell ⊢
    have hpassed : ¬x < cell + (cells cluster + 1) / 2 := by omega
    rw [List.cons_append, nearestFrom, if_neg hpassed, ih (by omega), List.flatten_cons,
      List.length_append, Nat.add_assoc, Nat.add_assoc]

theorem nearestFrom_le_nearestFrom (h : x ≤ y) (column cell : Nat) (clusters : List Text) :
    nearestFrom x column cell clusters ≤ nearestFrom y column cell clusters := by
  induction clusters generalizing column cell with
  | nil => exact Nat.le_refl column
  | cons cluster rest ih =>
    by_cases hleft : x < cell + (cells cluster + 1) / 2
    · have hstay : nearestFrom x column cell (cluster :: rest) = column := if_pos hleft
      rw [hstay]
      exact (mem_of_mem_stopsFrom (nearestFrom_mem_stopsFrom y column cell _)).1
    · have hpassed : ¬y < cell + (cells cluster + 1) / 2 := by omega
      rw [nearestFrom, nearestFrom, if_neg hleft, if_neg hpassed]
      exact ih _ _

/-! ### What it finds -/

/-- Of two boundaries, each given by its column and its cell, the first is no worse for `x` than the
second. -/
structure NoWorse (x column cell column' cell' : Nat) : Prop where
  nearest : Nat.dist x cell ≤ Nat.dist x cell'
  right : Nat.dist x cell' = Nat.dist x cell → cell' ≤ cell
  last : cell' = cell → cell ≤ x → column' ≤ column
  first : cell' = cell → x < cell → column ≤ column'

theorem NoWorse.same : NoWorse x column cell column cell where
  nearest := Nat.le_refl _
  right _ := Nat.le_refl _
  last _ _ := Nat.le_refl _
  first _ _ := Nat.le_refl _

/-- A boundary further left is no nearer, because of the cluster that was passed last. -/
theorem noWorse_of_passed {between : List Text}
    (hpassed : ∀ first cluster, before ++ between = first ++ [cluster] →
      clusterCells first + (cells cluster + 1) / 2 ≤ x) :
    NoWorse x ((before ++ between).flatten.length + 1) (clusterCells (before ++ between))
      (before.flatten.length + 1) (clusterCells before) := by
  rcases List.eq_nil_or_concat between with rfl | ⟨first, cluster, rfl⟩
  · rw [List.append_nil]
    exact .same
  have hle := hpassed (before ++ first) cluster (by simp)
  have hcells : clusterCells (before ++ first.concat cluster) =
      clusterCells (before ++ first) + cells cluster := by
    simp only [List.concat_eq_append, ← List.append_assoc, clusterCells_append, clusterCells,
      Nat.add_zero]
  rw [hcells, List.flatten_append, List.length_append]
  rw [clusterCells_append] at hle ⊢
  constructor
  case nearest | right =>
    simp only [Nat.dist]
    omega
  case last | first => omega

/-- A boundary further right is further away, because of the cluster that was not passed, unless
it is in the same cell. -/
theorem noWorse_of_stop {between : List Text}
    (hstop : ∀ cluster ∈ between.head?, x < clusterCells before + (cells cluster + 1) / 2) :
    NoWorse x (before.flatten.length + 1) (clusterCells before)
      ((before ++ between).flatten.length + 1) (clusterCells (before ++ between)) := by
  cases between with
  | nil =>
    rw [List.append_nil]
    exact .same
  | cons cluster rest =>
    have hlt := hstop cluster rfl
    rw [clusterCells_append, clusterCells, List.flatten_append, List.length_append]
    constructor
    case nearest | right =>
      simp only [Nat.dist]
      omega
    case last | first => omega

/-- **The nearest boundary** is found. -/
theorem nearestStop_columnAtCell (line : Text) (x : Nat) :
    ∃ cell, line.NearestStop x (line.columnAtCell x) cell := by
  obtain ⟨before, after, hsplit, hfound, hpassed, hstop⟩ :=
    exists_split_of_nearestFrom x 1 0 (clusters line)
  simp only [Nat.zero_add] at hpassed hstop
  have hcolumn : line.columnAtCell x = before.flatten.length + 1 := hfound.trans (Nat.add_comm _ _)
  have hother : ∀ column' cell', line.StopsAt column' cell' →
      NoWorse x (before.flatten.length + 1) (clusterCells before) column' cell' := by
    rintro column' cell' ⟨before', after', hsplit', rfl, rfl⟩
    rcases List.append_eq_append_iff.mp (hsplit.symm.trans hsplit') with
      ⟨between, rfl, rfl⟩ | ⟨between, rfl, rfl⟩
    · refine noWorse_of_stop fun cluster hcluster => hstop cluster ?_
      rw [List.head?_append, Option.mem_def.mp hcluster, Option.some_or]
      exact Option.mem_some_self cluster
    · exact noWorse_of_passed hpassed
  rw [hcolumn]
  refine ⟨clusterCells before, ⟨before, after, hsplit, rfl, rfl⟩, ?_, ?_, ?_, ?_⟩
  · intro column' cell' h
    exact (hother column' cell' h).nearest
  · intro column' cell' h
    exact (hother column' cell' h).right
  · intro hx column' h
    exact (hother column' _ h).last rfl hx
  · intro hx column' h
    exact (hother column' _ h).first rfl hx

theorem columnAtCell_le_columnAtCell (line : Text) (h : x ≤ y) :
    line.columnAtCell x ≤ line.columnAtCell y :=
  nearestFrom_le_nearestFrom h 1 0 (clusters line)

/-- **From its own cell** the way leads back to a boundary, if it is the last one in that cell. -/
theorem columnAtCell_clusterCells (hsplit : clusters line = before ++ after)
    (hlast : ∀ cluster ∈ after.head?, 1 ≤ cells cluster) :
    line.columnAtCell (clusterCells before) = before.flatten.length + 1 := by
  have hpassed : 0 + clusterCells before ≤ clusterCells before := Nat.le_of_eq (Nat.zero_add _)
  rw [columnAtCell, hsplit, nearestFrom_append hpassed, Nat.add_comm 1]
  cases after with
  | nil => rfl
  | cons cluster rest =>
    have hone := hlast cluster rfl
    rw [nearestFrom, if_pos]
    omega

/-- **A display cell leads to the nearest boundary of clusters**, in every line and from every cell,
whatever cells the clusters take; of two boundaries equally near to the one on the right. From
cells further right it leads no further left. And from the cells before a boundary it leads back to
that boundary, if these are as many as the clusters before it take one by one, and the boundary is
at the end of the line or the cluster behind it takes a cell. -/
theorem cell_leads_to_nearest_stop (line : Text) :
    (∀ x, (1 ≤ line.columnAtCell x ∧ line.columnAtCell x ≤ line.length + 1) ∧
      ∃ cell, line.NearestStop x (line.columnAtCell x) cell) ∧
    (∀ x y, x ≤ y → line.columnAtCell x ≤ line.columnAtCell y) ∧
    ∀ before after, clusters line = before ++ after →
      (∀ cluster ∈ after.head?, 1 ≤ cells cluster) →
      line.cellsBefore (before.flatten.length + 1) = clusterCells before →
      line.columnAtCell (line.cellsBefore (before.flatten.length + 1)) =
        before.flatten.length + 1 := by
  refine ⟨?_, ?_, ?_⟩
  · intro x
    exact ⟨mem_of_mem_clusterStops (columnAtCell_mem_clusterStops line x),
      line.nearestStop_columnAtCell x⟩
  · intro x y h
    exact line.columnAtCell_le_columnAtCell h
  · intro before after hsplit hlast hcells
    rw [hcells]
    exact columnAtCell_clusterCells hsplit hlast

/-- A mark that takes no cell, a wide character and a letter: the middle of the wide character is
equally near to both of its ends and leads to the right one, and from behind the mark the way leads
back there, although the start of the line is in the same cell. -/
theorem nearest_stop_behind_mark :
    (columnAtCell "\u0301語a".toList 1 = 3 ∧
      ∃ cell, NearestStop "\u0301語a".toList 1 (columnAtCell "\u0301語a".toList 1) cell) ∧
    (0 ≤ 1 ∧ columnAtCell "\u0301語a".toList 0 ≤ columnAtCell "\u0301語a".toList 1) ∧
    clusters "\u0301語a".toList = ["\u0301".toList] ++ ["語".toList, "a".toList] ∧
      cellsBefore "\u0301語a".toList 2 = clusterCells ["\u0301".toList] ∧
      columnAtCell "\u0301語a".toList (cellsBefore "\u0301語a".toList 2) = 2 := by
  obtain ⟨hnearest, hmono, hback⟩ := cell_leads_to_nearest_stop "\u0301語a".toList
  have hsplit : clusters "\u0301語a".toList = ["\u0301".toList] ++ ["語".toList, "a".toList] := by
    decide +kernel
  have hcells : cellsBefore "\u0301語a".toList 2 = clusterCells ["\u0301".toList] := by
    decide +kernel
  have hlast : ∀ cluster ∈ ["語".toList, "a".toList].head?, 1 ≤ cells cluster := by
    rintro cluster ⟨⟩
    decide +kernel
  have hmark := hback _ _ hsplit hlast
  rw [show ["\u0301".toList].flatten.length + 1 = 2 by decide +kernel] at hmark
  exact ⟨⟨by decide +kernel, (hnearest 1).2⟩, ⟨Nat.zero_le 1, hmono 0 1 (Nat.zero_le 1)⟩, hsplit,
    hcells, hmark hcells⟩

end Text

end FrameScript
