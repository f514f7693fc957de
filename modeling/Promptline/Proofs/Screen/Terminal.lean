/-
This file defines an ideal terminal that carries out the paint commands. A text that is printed is
cut into its clusters, and each of them is written over its width.
-/

import Mathlib.Logic.Function.Basic
import Promptline.Proofs.Screen.Printing

namespace Promptline

/-- The terminal has as many rows as are needed. -/
@[ext]
structure Terminal where
  width : Nat
  row : Nat → Row
  x : Nat
  y : Nat
  flags : Flags

namespace Terminal

/-- A cluster without room before the right edge is not written, and nothing is behind it. -/
def write (terminal : Terminal) (cluster : Text) : Terminal :=
  let stop := terminal.x + cluster.drawnWidth
  if stop ≤ terminal.width then
    { terminal with
      row := Function.update terminal.row terminal.y ((terminal.row terminal.y).write terminal.x
        (Row.cover cluster cluster.drawnWidth terminal.flags))
      x := stop }
  else { terminal with x := terminal.width }

/-- The row of the cursor without what stands at the cursor and to its right. -/
def eraseRight (terminal : Terminal) : Row :=
  (terminal.row terminal.y).take terminal.x ++ Row.blank (terminal.width - terminal.x)

def perform (terminal : Terminal) : PaintCommand → Terminal
  | .column x => { terminal with x := x }
  | .up rows => { terminal with y := terminal.y - rows }
  | .clearLine =>
      { terminal with row := Function.update terminal.row terminal.y (Row.blank terminal.width) }
  | .clearBelow =>
      { terminal with
        row := fun y =>
          if y < terminal.y then terminal.row y
          else if y = terminal.y then terminal.eraseRight
          else Row.blank terminal.width }
  | .newLine => { terminal with x := 0, y := terminal.y + 1 }
  | .attributes flags => { terminal with flags := terminal.flags.union flags }
  | .plain => { terminal with flags := .none }
  | .print text => text.clusters.foldl write terminal

def run (terminal : Terminal) (commands : List PaintCommand) : Terminal :=
  commands.foldl perform terminal

/-- The clusters of a drawing are written one behind the other, each with its flags. -/
def draw (terminal : Terminal) (drawing : Drawing) : Terminal :=
  drawing.foldl (fun terminal drawn => write { terminal with flags := drawn.2 } drawn.1) terminal

@[simp] theorem run_nil (terminal : Terminal) : terminal.run [] = terminal := rfl

@[simp] theorem run_cons (terminal : Terminal) (command : PaintCommand)
    (rest : List PaintCommand) :
    terminal.run (command :: rest) = (terminal.perform command).run rest := rfl

@[simp] theorem run_append (terminal : Terminal) (first second : List PaintCommand) :
    terminal.run (first ++ second) = (terminal.run first).run second := List.foldl_append

@[simp] theorem draw_cons (terminal : Terminal) (drawn : Text × Flags) (rest : Drawing) :
    terminal.draw (drawn :: rest) = (write { terminal with flags := drawn.2 } drawn.1).draw rest :=
  rfl

theorem draw_append (terminal : Terminal) (first second : Drawing) :
    terminal.draw (first ++ second) = (terminal.draw first).draw second := List.foldl_append

@[simp] theorem flags_write (terminal : Terminal) (cluster : Text) :
    (terminal.write cluster).flags = terminal.flags := by
  simp only [write]
  split <;> rfl

@[simp] theorem width_draw (terminal : Terminal) (drawing : Drawing) :
    (terminal.draw drawing).width = terminal.width := by
  induction drawing generalizing terminal with
  | nil => rfl
  | cons drawn rest inductionHypothesis =>
      rw [draw_cons, inductionHypothesis, write]
      split <;> rfl

@[simp] theorem y_draw (terminal : Terminal) (drawing : Drawing) :
    (terminal.draw drawing).y = terminal.y := by
  induction drawing generalizing terminal with
  | nil => rfl
  | cons drawn rest inductionHypothesis =>
      rw [draw_cons, inductionHypothesis, write]
      split <;> rfl

section Runs

variable {terminal : Terminal}

/-- The flags of the terminal do not matter to a drawing, which sets its own. -/
theorem draw_flags (flags after : Flags) (drawing : Drawing) :
    ({ ({ terminal with flags := flags } : Terminal).draw drawing with
        flags := after } : Terminal) =
      { terminal.draw drawing with flags := after } := by
  cases drawing <;> rfl

theorem run_change (after : Flags) :
    terminal.run (Paint.change terminal.flags after) = { terminal with flags := after } := by
  rw [Paint.change]
  split
  next same => rw [← same, run_nil]
  next =>
    split
    next plain => rw [plain]; rfl
    next =>
      simp only [run_cons, run_nil, perform, Flags.none, Flags.union, Bool.false_or]

/-- A text is printed cluster by cluster with the flags of the terminal. -/
theorem run_print (text : Text) :
    terminal.run (Paint.print text) =
      { terminal.draw (text.clusters.map fun cluster => (cluster, terminal.flags)) with
        flags := terminal.flags } := by
  have drawn (clusters : List Text) (start : Terminal) :
      clusters.foldl write start =
        { start.draw (clusters.map fun cluster => (cluster, start.flags)) with
          flags := start.flags } := by
    induction clusters generalizing start with
    | nil => rfl
    | cons cluster rest inductionHypothesis =>
        rw [List.foldl_cons, inductionHypothesis, flags_write, List.map_cons, draw_cons]
  rw [Paint.print]
  split
  next empty => rw [empty]; rfl
  next => exact drawn text.clusters terminal

/-- A run draws the clusters that are found in its text. -/
theorem run_run (run : Run) :
    terminal.run (Paint.change terminal.flags run.flags ++ Paint.print run.text) =
      { terminal.draw run.drawn with flags := run.flags } := by
  rw [run_append, run_change, run_print, draw_flags]
  rfl

/-- The runs of a row draw what is printed of them, and the flags are reset behind them. -/
theorem run_runs (runs : List Run) :
    terminal.run (Paint.runs terminal.flags runs) =
      { terminal.draw (Run.printed runs) with flags := .none } := by
  induction runs generalizing terminal with
  | nil => exact run_change .none
  | cons run rest inductionHypothesis =>
      cases rest with
      | nil =>
          have cut : Paint.runs terminal.flags [run] =
              Paint.change terminal.flags run.trimmed.flags ++ Paint.print run.trimmed.text ++
                Paint.change run.trimmed.flags .none := by
            rw [Paint.runs, Run.trimmed]
            split <;> rfl
          rw [cut, run_append, run_run]
          exact run_change .none
      | cons next others =>
          have cut : Paint.runs terminal.flags (run :: next :: others) =
              Paint.change terminal.flags run.flags ++ Paint.print run.text ++
                Paint.runs run.flags (next :: others) := rfl
          have shown : Run.printed (run :: next :: others) =
              run.drawn ++ Run.printed (next :: others) := rfl
          rw [cut, run_append, run_run, inductionHypothesis, draw_flags, shown, draw_append]

end Runs

section Rows

variable {terminal : Terminal}

/-- At the right edge nothing is written. -/
theorem draw_edge (edge : terminal.x = terminal.width) (drawing : Drawing) :
    (terminal.draw drawing).row = terminal.row ∧ (terminal.draw drawing).x = terminal.x := by
  induction drawing generalizing terminal with
  | nil => exact ⟨rfl, rfl⟩
  | cons drawn rest inductionHypothesis =>
      have positive := drawn.1.drawnWidth_pos
      have refused : write { terminal with flags := drawn.2 } drawn.1 =
          { terminal with flags := drawn.2 } := by
        rw [write, if_neg (by dsimp only; omega), ← edge]
      rw [draw_cons, refused]
      exact inductionHypothesis edge

/-- Behind the first part of a row the terminal draws what fits. -/
theorem draw_row {front : List Cell} {room : Nat} (drawing : Drawing)
    (begun : terminal.row terminal.y = front ++ Row.blank room) (column : terminal.x = front.length)
    (wide : terminal.width = front.length + room) :
    (terminal.draw drawing).row =
        Function.update terminal.row terminal.y (front ++ Row.painted room drawing) ∧
      (terminal.draw drawing).x = front.length + min room drawing.total := by
  induction drawing generalizing terminal front room with
  | nil =>
      rw [Row.painted_nil, ← begun, Function.update_eq_self, Drawing.total_nil, Nat.min_zero,
        Nat.add_zero, ← column]
      exact ⟨rfl, rfl⟩
  | cons drawn rest inductionHypothesis =>
      rw [draw_cons, Drawing.total_cons]
      by_cases fits : drawn.1.drawnWidth ≤ room
      · have written : write { terminal with flags := drawn.2 } drawn.1 =
            { terminal with
              row := Function.update terminal.row terminal.y
                (front ++ Row.cover drawn.1 drawn.1.drawnWidth drawn.2 ++
                  Row.blank (room - drawn.1.drawnWidth))
              x := front.length + drawn.1.drawnWidth
              flags := drawn.2 } := by
          rw [write, if_pos (by dsimp only; omega)]
          simp only [begun, column, Row.write_append_blank, Row.length_cover drawn.1.drawnWidth_pos]
        obtain ⟨rows, stop⟩ := @inductionHypothesis
          (write { terminal with flags := drawn.2 } drawn.1)
          (front ++ Row.cover drawn.1 drawn.1.drawnWidth drawn.2) (room - drawn.1.drawnWidth)
          (by rw [written]; exact Function.update_self ..)
          (by rw [written, Row.length_append_cover])
          (by rw [written, Row.length_append_cover]; dsimp only; omega)
        rw [rows, stop, written, Function.update_idem, Row.length_append_cover, List.append_assoc,
          Row.painted_cons_of_le fits]
        exact ⟨rfl, by omega⟩
      · have refused : write { terminal with flags := drawn.2 } drawn.1 =
            { terminal with x := terminal.width, flags := drawn.2 } := by
          rw [write, if_neg (by dsimp only; omega)]
        rw [refused, Row.painted_cons_of_lt (Nat.lt_of_not_le fits), ← begun,
          Function.update_eq_self]
        obtain ⟨rows, stop⟩ :=
          @draw_edge { terminal with x := terminal.width, flags := drawn.2 } rfl rest
        exact ⟨rows, stop.trans (by dsimp only; omega)⟩

/-- A row of the frame is painted onto a cleared line. -/
theorem run_row (row : Row) (start : terminal.x = 0) (plain : terminal.flags = .none) :
    terminal.run (.clearLine :: Paint.row row) =
      { terminal with
        row := Function.update terminal.row terminal.y (Row.painted terminal.width row.printed)
        x := min terminal.width row.printed.total } := by
  obtain ⟨rows, stop⟩ := @draw_row (terminal.perform .clearLine) [] terminal.width row.printed
    (Function.update_self ..) start (Nat.zero_add _).symm
  have painted := @run_runs (terminal.perform .clearLine) row.runs
  have unstyled : (terminal.perform .clearLine).flags = .none := plain
  rw [unstyled] at painted
  rw [run_cons, Paint.row, painted]
  refine Terminal.ext (width_draw ..) ?_ ?_ (y_draw ..) plain.symm
  · exact rows.trans (Function.update_idem ..)
  · exact stop.trans (Nat.zero_add _)

end Rows

/-- The rows stand one below the other from a place of the screen on. -/
def stacked (screen : Nat → Row) (y : Nat) : List Row → Nat → Row
  | [] => screen
  | first :: rest => stacked (Function.update screen y first) (y + 1) rest

theorem stacked_of_lt (screen : Nat → Row) {y place : Nat} (rows : List Row) (above : place < y) :
    stacked screen y rows place = screen place := by
  induction rows generalizing screen y with
  | nil => rfl
  | cons first rest inductionHypothesis =>
      rw [stacked, inductionHypothesis _ (Nat.lt_succ_of_lt above),
        Function.update_of_ne (Nat.ne_of_lt above)]

theorem stacked_add (screen : Nat → Row) (y : Nat) {rows : List Row} {place : Nat} {row : Row}
    (found : rows[place]? = some row) : stacked screen y rows (y + place) = row := by
  induction rows generalizing screen y place with
  | nil => simp at found
  | cons first rest inductionHypothesis =>
      rw [stacked]
      cases place with
      | zero =>
          obtain rfl := Option.some.inj found
          exact (stacked_of_lt _ rest (Nat.lt_succ_self y)).trans (Function.update_self ..)
      | succ place =>
          rw [← inductionHypothesis (Function.update screen y first) (y + 1) found]
          congr 1
          omega

/-- Behind what is painted of a row there is nothing to erase. -/
theorem take_painted (width : Nat) (drawing : Drawing) :
    (Row.painted width drawing).take (min width drawing.total) ++
      Row.blank (width - min width drawing.total) = Row.painted width drawing := by
  have long := Row.length_painted width drawing
  rcases drawing.fitting_cases width with whole | ⟨dropped, rest, cut, narrow⟩
  · have inside := drawing.total_fitting_le width
    rw [whole] at inside
    rw [Row.painted, whole, Nat.min_eq_right inside,
      List.take_left' (Drawing.length_cells drawing)]
  · have wide : width ≤ drawing.total := by
      rw [cut, Drawing.total_append, Drawing.total_cons]
      omega
    rw [Nat.min_eq_left wide, Nat.sub_self, List.take_of_length_le (Nat.le_of_eq long)]
    exact List.append_nil _

/-- The rows of the frame are painted one below the other, and the cursor stops behind the last. -/
theorem run_rows (first : Row) (rest : List Row) {terminal : Terminal} (start : terminal.x = 0)
    (plain : terminal.flags = .none) :
    ∃ x, terminal.run (Paint.rows (first :: rest)) =
        { terminal with
          row := stacked terminal.row terminal.y
            ((first :: rest).map fun row => Row.painted terminal.width row.printed)
          x := x
          y := terminal.y + rest.length } ∧
      (terminal.run (Paint.rows (first :: rest))).eraseRight =
        (terminal.run (Paint.rows (first :: rest))).row (terminal.y + rest.length) := by
  induction rest generalizing first terminal with
  | nil =>
      have painted := run_row first start plain
      refine ⟨_, painted, ?_⟩
      rw [Paint.rows, painted, eraseRight]
      simp only [List.length_nil, Nat.add_zero, Function.update_self]
      exact take_painted ..
  | cons next others inductionHypothesis =>
      have cut : Paint.rows (first :: next :: others) =
          (.clearLine :: Paint.row first) ++ .newLine :: Paint.rows (next :: others) := rfl
      have painted := run_row first start plain
      obtain ⟨x, further, kept⟩ := @inductionHypothesis next
        ((terminal.run (.clearLine :: Paint.row first)).perform .newLine) rfl
        (by rw [painted]; exact plain)
      have place : terminal.y + (next :: others).length = terminal.y + 1 + others.length := by
        rw [List.length_cons]
        omega
      rw [painted] at further kept
      rw [cut, run_append, run_cons, painted, place]
      exact ⟨x, further, kept⟩

/-- The frame is painted from the row of the cursor on, and the cursor goes back to that row. -/
theorem run_frame {composed : Composed} (high : composed.frame.rows ≠ []) (terminal : Terminal)
    (plain : terminal.flags = .none) :
    terminal.run (Paint.frame composed) =
      { terminal with
        row := fun y =>
          if y < terminal.y + composed.frame.height then
            stacked terminal.row terminal.y (composed.frame.rows.map fun row =>
              Row.painted terminal.width row.printed) y
          else Row.blank terminal.width
        x := composed.cursor } := by
  obtain ⟨first, rest, known⟩ := List.exists_cons_of_ne_nil high
  obtain ⟨x, painted, kept⟩ := @run_rows first rest (terminal.perform (.column 0)) rfl plain
  have height : composed.frame.height = rest.length + 1 := by
    rw [Frame.height, known, List.length_cons]
  have up (lower : Terminal) :
      lower.run (if 1 < composed.frame.height then [.up (composed.frame.height - 1)] else []) =
        { lower with y := lower.y - rest.length } := by
    split
    · rw [height, Nat.add_sub_cancel]
      rfl
    next single =>
      have none : rest.length = 0 := by omega
      rw [none]
      rfl
  have whole : Paint.frame composed = .column 0 :: Paint.rows (first :: rest) ++ [.clearBelow] ++
      (if 1 < composed.frame.height then [.up (composed.frame.height - 1)] else []) ++
        [.column composed.cursor] := by
    rw [← known]
    rfl
  rw [painted] at kept
  rw [whole, run_append, run_append, run_append, up,
    show terminal.run (.column 0 :: Paint.rows (first :: rest)) = _ from painted, known]
  refine Terminal.ext rfl (funext fun y => ?_) rfl (Nat.add_sub_cancel ..) rfl
  simp only [run_cons, run_nil, perform, height]
  rcases Nat.lt_trichotomy y (terminal.y + rest.length) with above | rfl | below
  · rw [if_pos above, if_pos (by omega)]
  · rw [if_neg (Nat.lt_irrefl _), if_pos rfl, if_pos (by omega)]
    exact kept
  · rw [if_neg (by omega), if_neg (by omega), if_neg (by omega)]

end Terminal

end Promptline
