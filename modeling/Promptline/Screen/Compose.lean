/-
This file composes the frame of an editor. The first row is the input line or the search prompt, and
the rows below it hold at most one box. The input line scrolls so that the cursor is in sight.
-/

import Promptline.Screen.CompletionBox
import Promptline.Screen.Frame
import Promptline.Screen.Line
import Promptline.Screen.SearchBox

namespace Promptline

/-- The cursor stands in the first row of the frame. -/
structure Composed where
  frame : Frame
  cursor : Nat
  deriving DecidableEq, Repr

/-- Clusters that are written one behind the other, each with its flags. -/
abbrev Drawing := List (Text × Flags)

/-- A text with the flags it is drawn in. -/
structure Segment where
  text : Text
  flags : Flags
  deriving DecidableEq, Repr

namespace Segment

/-- The clusters of all segments with their flags. -/
def clusters (segments : List Segment) : Drawing :=
  segments.flatMap fun segment => segment.text.clusters.map fun cluster => (cluster, segment.flags)

end Segment

/-- A row of the completion box, with the span of the selected candidate. -/
structure BoxRow where
  text : Text
  flags : Flags
  highlight? : Option (Nat × Nat)
  deriving DecidableEq, Repr

namespace Compose

/-- Clusters are left out until the given number of columns is reached. -/
def scroll (columns : Nat) : Drawing → Drawing
  | [] => []
  | (cluster, flags) :: rest =>
      if columns = 0 then (cluster, flags) :: rest
      else scroll (columns - cluster.drawnWidth) rest

/-- Clusters are written one behind the other until one does not fit. -/
def putAll (frame : Frame) (x y : Nat) : Drawing → Option Frame
  | [] => some frame
  | (cluster, flags) :: rest => do
      let (frame, next) ← frame.put x y cluster flags
      if next = x then some frame else putAll frame next y rest

/-- The tail is dim and splits the text where it stands. -/
def segments (view : LineView) : List Segment :=
  ⟨view.prompt, .none⟩ ::
    match view.suffix? with
    | some (offset, suffix) =>
        [⟨view.text.take offset, .none⟩, ⟨suffix, .dimmed⟩, ⟨view.text.drop offset, .none⟩]
    | none => [⟨view.text, .none⟩, ⟨view.ghost?.getD [], .dimmed⟩]

def blanks (count : Nat) : Text := List.replicate count ' '

/-- A label is cut so that a blank follows it, unless the box has one column only. -/
def cutLabel (box : CompletionBox) (cell : BoxCell) : Text :=
  let room := if 1 < box.columns then box.itemWidth - 1 else box.itemWidth
  cell.label.truncate (max room 1)

/-- All descriptions start in the same column. -/
def describe (box : CompletionBox) (cell : BoxCell) : Text :=
  match cell.description? with
  | some description => blanks (box.itemWidth - (cutLabel box cell).width) ++ description
  | none => []

/-- A candidate starts at its column of the row. -/
def addCell (box : CompletionBox) (line : Text) (cell : BoxCell) : Text :=
  line ++ blanks (cell.column * box.itemWidth - Text.width line) ++ cutLabel box cell ++
    describe box cell

/-- The span of a selected candidate reaches from its column to the end of what is written. -/
def highlightOf (box : CompletionBox) (line : Text) (cell : BoxCell) : Option (Nat × Nat) :=
  if cell.selected then
    let start := cell.column * box.itemWidth
    some (screenWord start, screenWord (max (line.width - start) 1))
  else none

/-- One row of the box joins the candidates that share it. -/
def boxRow (box : CompletionBox) (columns row : Nat) : BoxRow :=
  let (line, highlight?) := (box.cells.filter fun cell => cell.row = row).foldl
    (fun (line, highlight?) cell =>
      let line := addCell box line cell
      (line, (highlightOf box line cell).or highlight?)) ([], none)
  ⟨Text.truncate columns line, .none, highlight?⟩

/-- The help of the command, if there is any, stands above the candidates. -/
def completionRows (editor : Editor) : List BoxRow :=
  let completion := editor.completion
  let columns := editor.size.columns
  if !completion.isBoxed then []
  else
    let help :=
      if completion.help = [] then []
      else [⟨completion.help.truncate columns, .dimmed, none⟩]
    let box := CompletionBox.arrange completion.candidates completion.selected? columns
      (editor.options.completionHeight - help.length) editor.options.itemWidth
    help ++ (List.range box.rows).map (boxRow box columns)

/-- The rows of a box are drawn below each other. -/
def drawRows {α : Type} (draw : Frame → Nat → α → Option Frame) (frame : Frame) (y : Nat) :
    List α → Option Frame
  | [] => some frame
  | row :: rest => do
      let frame ← draw frame y row
      drawRows draw frame (y + 1) rest

def drawBoxRow (frame : Frame) (y : Nat) (row : BoxRow) : Option Frame := do
  let (frame, _) ← frame.put 0 y row.text row.flags
  match row.highlight? with
  | some (x, width) => some (frame.addFlags x y width .reversed)
  | none => some frame

/-- The frame of an editor that edits the line. -/
def edit (editor : Editor) : Option Composed := do
  let view := editor.lineView
  let columns := editor.size.columns
  let skipped := view.column + 1 - columns
  let rows := completionRows editor
  let region := editor.size.box (screenWord rows.length)
  let line ← putAll (.blank columns (1 + region.height)) 0 0
    (scroll skipped (Segment.clusters (segments view)))
  let frame ← drawRows drawBoxRow line region.row (rows.take region.height)
  some ⟨frame, screenWord (min (view.column - skipped) (columns - 1))⟩

/-- A cluster is highlighted when the position with its number is matched. -/
def searchFlags (row : SearchRow) (index : Nat) : Flags :=
  (if row.positions.contains index then Flags.highlighted else .none).union
    (if row.selected then .reversed else .none)

def drawSearchRow (frame : Frame) (y : Nat) (row : SearchRow) : Option Frame :=
  putAll frame 0 y (row.command.clusters.mapIdx fun index cluster =>
    (cluster, searchFlags row index))

/-- The frame of an editor that searches the history. The cursor stands behind the query. -/
def search (editor : Editor) : Option Composed := do
  let search := editor.search
  let columns := editor.size.columns
  let region := editor.size.box editor.options.historyHeight
  let rows := (search.box region.height).rows
  let (prompt, last) ← (Frame.blank columns (1 + screenWord rows.length)).put 0 0
    (search.prompt.truncate columns) .none
  let frame ← drawRows drawSearchRow prompt region.row rows
  let column := search.promptHead.width + search.query.width
  some ⟨frame, min (screenWord column) (max last 1 - 1)⟩

end Compose

namespace Editor

/-- What the screen shows from the prompt row on. In the widest row a cluster without room is not
left out, and then nothing is composed. -/
def compose (editor : Editor) : Option Composed :=
  if editor.search.active then Compose.search editor else Compose.edit editor

end Editor

end Promptline
