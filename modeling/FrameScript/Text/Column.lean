import FrameScript.Text.Cells
import FrameScript.Text.Cluster

/-!
# Columns of a line

The slots of a line are its columns 1 to one past its length; slot `k` lies before the `k`-th
character. This module relates slots to what is seen: to the boundaries of clusters and to cells
of the display.

## Which clusters, and which cells

Where clusters end and how many cells they take is a matter of large tables, and these change with
every version of Unicode. Columns do not depend on them. What is proved of all texts about columns,
and about carets, selections and sessions after them, uses the fields of `Display` and no more: the
clusters of a text are not empty, and put together they are the text. Of the cells nothing is used
but that every text takes some number of them. `display` says that the tables of this library will
do; others would do as well. To keep it so, `clusters` and `cells` are irreducible.
-/

namespace FrameScript.Text

/-- What clusters and cells are to columns. -/
structure Display where
  /-- The clusters of a text, in order. -/
  clusters : Text → List Text
  /-- The cells that a text takes. Nothing is asked of them, not even that the cells of a text be
  those of its clusters together. -/
  cells : Text → Nat
  ne_nil : ∀ {text cluster : Text}, cluster ∈ clusters text → cluster ≠ []
  flatten : ∀ text : Text, (clusters text).flatten = text

/-- The clusters and cells by the tables of this library. -/
abbrev display : Display where
  clusters := clusters
  cells := cells
  ne_nil := ne_nil_of_mem_clusters
  flatten := flatten_clusters

/-- The slot after the last character. -/
def endColumn (line : Text) : Nat := line.length + 1

/-- The slot of the line that is nearest to a column. -/
def moveInto (line : Text) (column : Nat) : Nat := max 1 (min column line.endColumn)

/-! ### Clusters -/

/-- The slots at the boundaries of clusters of which the first begins at the given column. -/
def stopsFrom (column : Nat) : List Text → List Nat
  | [] => [column]
  | cluster :: rest => column :: stopsFrom (column + cluster.length) rest

/-- The slots at cluster boundaries, column 1 and the end of the line among them. -/
def clusterStops (line : Text) : List Nat := stopsFrom 1 (clusters line)

/-- The first cluster boundary right of a column. -/
def nextClusterStop? (line : Text) (column : Nat) : Option Nat :=
  line.clusterStops.find? (column < ·)

/-- The last cluster boundary left of a column. -/
def prevClusterStop? (line : Text) (column : Nat) : Option Nat :=
  line.clusterStops.reverse.find? (· < column)

/-! ### Display cells -/

/-- The display cells left of a column. -/
def cellsBefore (line : Text) (column : Nat) : Nat := cells (line.take (column - 1))

/-- The slot nearest to a cell among the boundaries of clusters of which the first begins at the
given column and cell. A cluster is passed unless the cell lies in its left half. -/
def nearestFrom (x column cell : Nat) : List Text → Nat
  | [] => column
  | cluster :: rest =>
    let width := cells cluster
    if x < cell + (width + 1) / 2 then column
    else nearestFrom x (column + cluster.length) (cell + width) rest

/-- The cluster boundary nearest to a display cell; of two equally near the right one. -/
def columnAtCell (line : Text) (x : Nat) : Nat := nearestFrom x 1 0 (clusters line)

/-! ### Small facts -/

theorem one_le_moveInto (line : Text) (column : Nat) : 1 ≤ line.moveInto column :=
  Nat.le_max_left ..

theorem moveInto_le (line : Text) (column : Nat) : line.moveInto column ≤ line.endColumn :=
  Nat.max_le.2 ⟨Nat.succ_pos _, Nat.min_le_right ..⟩

/-- A slot of the line stays where it is. -/
theorem moveInto_of_mem {line : Text} {column : Nat} (h₁ : 1 ≤ column)
    (h₂ : column ≤ line.endColumn) : line.moveInto column = column := by
  unfold moveInto
  omega

theorem one_mem_clusterStops (line : Text) : 1 ∈ line.clusterStops := by
  unfold clusterStops
  cases clusters line <;> simp [stopsFrom]

end FrameScript.Text
