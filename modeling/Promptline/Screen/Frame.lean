/-
This file defines frames, which are grids of cells. The leading cell of a cluster holds it whole,
and the other cells that the cluster covers hold nothing.
-/

import Promptline.Text.Width

namespace Promptline

/-- The attributes of a cell. -/
structure Flags where
  reverse : Bool
  dim : Bool
  bold : Bool
  underline : Bool
  deriving DecidableEq, Repr

namespace Flags

def none : Flags := ⟨false, false, false, false⟩

def reversed : Flags := { none with reverse := true }

def dimmed : Flags := { none with dim := true }

/-- Matched characters are bold and underlined. -/
def highlighted : Flags := { none with bold := true, underline := true }

def union (a b : Flags) : Flags :=
  ⟨a.reverse || b.reverse, a.dim || b.dim, a.bold || b.bold, a.underline || b.underline⟩

end Flags

/-- A cell of width zero continues the cluster on its left. -/
structure Cell where
  cluster : Text
  width : Nat
  flags : Flags
  deriving DecidableEq, Repr

namespace Cell

def leader (cluster : Text) (width : Nat) (flags : Flags) : Cell := ⟨cluster, width, flags⟩

def continuation (flags : Flags) : Cell := ⟨[], 0, flags⟩

def blank : Cell := ⟨[' '], 1, .none⟩

def isLeader (cell : Cell) : Bool := 0 < cell.width

end Cell

/-- A leading cell with the column where it stands. -/
structure Leader where
  column : Nat
  cell : Cell
  deriving DecidableEq, Repr

/-- Neighbouring leaders of equal flags make up a run. -/
structure Run where
  column : Nat
  flags : Flags
  text : Text
  deriving DecidableEq, Repr

namespace Run

/-- The leader joins the first run if the flags agree. -/
def join (leader : Leader) (runs : List Run) : List Run :=
  let cell := leader.cell
  match runs with
  | run :: rest =>
      if run.flags = cell.flags then ⟨leader.column, cell.flags, cell.cluster ++ run.text⟩ :: rest
      else ⟨leader.column, cell.flags, cell.cluster⟩ :: runs
  | [] => [⟨leader.column, cell.flags, cell.cluster⟩]

end Run

namespace Text

/-- Every cluster is drawn in one column at least. -/
def drawnWidth (cluster : Text) : Nat := max cluster.clusterWidth 1

theorem drawnWidth_pos (cluster : Text) : 0 < cluster.drawnWidth := Nat.le_max_right _ _

theorem drawnWidth_le (cluster : Text) : cluster.drawnWidth ≤ 2 :=
  Nat.max_le.2 ⟨cluster.clusterWidth_le, Nat.le_succ 1⟩

end Text

/-- A row of cells from the first column on. -/
abbrev Row := List Cell

namespace Row

def blank (width : Nat) : Row := List.replicate width .blank

/-- The cells take the place of those from a column on. -/
def write (row : Row) (column : Nat) (cells : List Cell) : Row :=
  row.take column ++ cells ++ row.drop (column + cells.length)

/-- The cells that a cluster covers. -/
def cover (cluster : Text) (width : Nat) (flags : Flags) : List Cell :=
  .leader cluster width flags :: List.replicate (width - 1) (.continuation flags)

theorem length_cover {cluster : Text} {width : Nat} {flags : Flags} (positive : 0 < width) :
    (cover cluster width flags).length = width := by
  simp only [cover, List.length_cons, List.length_replicate]
  omega

/-- The cells of clusters that are written one behind the other until one does not fit, and the
column behind them. The sum that is compared with the width is never more than the last word, and no
cells are left if the column behind a cluster is no word. -/
def fill (width : Nat) (flags : Flags) (column : Nat) : List Text → Option (List Cell × Nat)
  | [] => some ([], column)
  | cluster :: rest =>
      let next := column + cluster.drawnWidth
      if width < min next 65535 then some ([], column)
      else if next < 65536 then do
        let (cells, stop) ← fill width flags next rest
        some (cover cluster cluster.drawnWidth flags ++ cells, stop)
      else none

/-- Clusters are written until one does not fit, and the answer tells the column behind the last. -/
def putClusters (row : Row) (column : Nat) (flags : Flags) (clusters : List Text) :
    Option (Row × Nat) := do
  let (cells, stop) ← fill row.length flags column clusters
  some (row.write column cells, stop)

/-- The flags are added to those of the cells in the span. -/
def addFlags (row : Row) (column span : Nat) (flags : Flags) : Row :=
  row.mapIdx fun index cell =>
    if column ≤ index ∧ index < column + span then { cell with flags := cell.flags.union flags }
    else cell

@[simp] theorem length_addFlags (row : Row) (column span : Nat) (flags : Flags) :
    (row.addFlags column span flags).length = row.length := by
  simp [addFlags]

/-- A leader hides as many cells as it is wide, whatever stands in them. -/
def leadersFrom (column hidden : Nat) : Row → List Leader
  | [] => []
  | cell :: rest =>
      match hidden with
      | hidden + 1 => leadersFrom (column + 1) hidden rest
      | 0 =>
          if cell.isLeader then ⟨column, cell⟩ :: leadersFrom (column + 1) (cell.width - 1) rest
          else leadersFrom (column + 1) 0 rest

/-- The leaders that are seen, from left to right. -/
def leaders (row : Row) : List Leader := leadersFrom 0 0 row

/-- The runs of a row from left to right. -/
def runs (row : Row) : List Run := row.leaders.foldr Run.join []

/-- The text of a row has no blanks at its end. -/
def text (row : Row) : Text := Text.trimEnd (row.leaders.flatMap fun leader => leader.cell.cluster)

end Row

structure Frame where
  width : Nat
  rows : List Row
  deriving DecidableEq, Repr

namespace Frame

def blank (width height : Nat) : Frame := ⟨width, List.replicate height (Row.blank width)⟩

def height (frame : Frame) : Nat := frame.rows.length

def row (frame : Frame) (y : Nat) : Row := frame.rows.getD y []

def cell? (frame : Frame) (x y : Nat) : Option Cell := (frame.row y)[x]?

/-- The clusters of a text are written from a column on, and the answer tells the column behind the
last one that fits. -/
def put (frame : Frame) (x y : Nat) (text : Text) (flags : Flags) : Option (Frame × Nat) :=
  if y < frame.height then do
    let (row, column) ← Row.putClusters (frame.row y) x flags text.clusters
    some ({ frame with rows := frame.rows.set y row }, column)
  else some (frame, x)

def addFlags (frame : Frame) (x y span : Nat) (flags : Flags) : Frame :=
  { frame with rows := frame.rows.modify y fun row => row.addFlags x span flags }

end Frame

end Promptline
