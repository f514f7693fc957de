/-
This file shows that the rows of the screen are tiled by clusters. A cluster is shown whole or not
at all, and a row holds nothing else than clusters.
-/

import Mathlib.Data.List.Forall2
import Promptline.Proofs.Screen.Frame

namespace Promptline

namespace Row

/-- Leaders stand where no cell is due, and each one is due as many continuations as its cluster has
further columns. -/
def Tiled (due : Nat) : Row → Prop
  | [] => due = 0
  | cell :: rest =>
      match due with
      | due + 1 => cell.width = 0 ∧ cell.cluster = [] ∧ Tiled due rest
      | 0 => 0 < cell.width ∧ cell.width = cell.cluster.drawnWidth ∧ Tiled (cell.width - 1) rest

theorem tiled_continuations (count : Nat) (flags : Flags) {rest : Row} (tiled : rest.Tiled 0) :
    Tiled count (List.replicate count (.continuation flags) ++ rest) := by
  induction count with
  | zero => exact tiled
  | succ count inductionHypothesis => exact ⟨rfl, rfl, inductionHypothesis⟩

/-- A cluster is one tile. -/
theorem tiled_cover (cluster : Text) (flags : Flags) {rest : Row} (tiled : rest.Tiled 0) :
    Tiled 0 (cover cluster cluster.drawnWidth flags ++ rest) :=
  ⟨cluster.drawnWidth_pos, rfl, tiled_continuations _ flags tiled⟩

theorem tiled_blank (width : Nat) : (blank width).Tiled 0 := by
  induction width with
  | zero => rfl
  | succ width inductionHypothesis => exact ⟨Nat.zero_lt_one, rfl, inductionHypothesis⟩

theorem tiled_cells (drawing : Drawing) {rest : Row} (tiled : rest.Tiled 0) :
    Tiled 0 (drawing.cells ++ rest) := by
  induction drawing with
  | nil => exact tiled
  | cons drawn drawing inductionHypothesis =>
      rw [Drawing.cells_cons, List.append_assoc]
      exact tiled_cover drawn.1 drawn.2 inductionHypothesis

/-- Two rows that differ in their flags only. -/
def SameText (first second : Row) : Prop :=
  first.map (fun cell => (cell.cluster, cell.width)) =
    second.map fun cell => (cell.cluster, cell.width)

theorem sameText_addFlags (row : Row) (column span : Nat) (flags : Flags) :
    SameText (row.addFlags column span flags) row := by
  apply List.ext_getElem?
  intro place
  rw [List.getElem?_map, List.getElem?_map, getElem?_addFlags]
  cases row[place]? with
  | none => rfl
  | some cell =>
      simp only [Option.map_some]
      split <;> rfl

theorem SameText.tiled {first second : Row} (same : first.SameText second) {due : Nat}
    (tiled : second.Tiled due) : first.Tiled due := by
  induction first generalizing second due with
  | nil =>
      obtain rfl := List.map_eq_nil_iff.1 same.symm
      exact tiled
  | cons cell rest inductionHypothesis =>
      obtain ⟨other, others, rfl, agree, alike⟩ := List.map_eq_cons_iff.1 same.symm
      obtain ⟨cluster, width⟩ := Prod.mk.inj agree
      cases due with
      | zero =>
          obtain ⟨positive, drawn, further⟩ := tiled
          refine ⟨width ▸ positive, ?_, inductionHypothesis alike.symm (width ▸ further)⟩
          rw [← width, ← cluster, drawn]
      | succ due =>
          obtain ⟨none, empty, further⟩ := tiled
          exact ⟨width ▸ none, cluster ▸ empty, inductionHypothesis alike.symm further⟩

/-- The clusters that are seen, with their widths. -/
def tiles (row : Row) : List (Text × Nat) :=
  row.leaders.map fun leader => (leader.cell.cluster, leader.cell.width)

theorem map_leadersFrom_congr {first second : Row} (same : first.SameText second)
    (column other hidden : Nat) :
    (leadersFrom column hidden first).map (fun leader =>
        (leader.cell.cluster, leader.cell.width)) =
      (leadersFrom other hidden second).map fun leader =>
        (leader.cell.cluster, leader.cell.width) := by
  induction first generalizing second column other hidden with
  | nil =>
      obtain rfl := List.map_eq_nil_iff.1 same.symm
      rfl
  | cons cell rest inductionHypothesis =>
      obtain ⟨twin, others, rfl, agree, alike⟩ := List.map_eq_cons_iff.1 same.symm
      obtain ⟨cluster, width⟩ := Prod.mk.inj agree
      cases hidden with
      | succ hidden => exact inductionHypothesis alike.symm ..
      | zero =>
          have further := fun hidden =>
            inductionHypothesis alike.symm (column + 1) (other + 1) hidden
          by_cases positive : 0 < cell.width
          · simp only [leadersFrom, Cell.isLeader, width, positive, decide_true, if_true,
              List.map_cons, cluster, further]
          · simp only [leadersFrom, Cell.isLeader, width, positive, decide_false,
              Bool.false_eq_true, if_false, further]

/-- The tiles of a row do not depend on its flags. -/
theorem SameText.tiles_eq {first second : Row} (same : first.SameText second) :
    first.tiles = second.tiles := map_leadersFrom_congr same 0 0 0

theorem leadersFrom_hidden (column : Nat) (hidden rest : Row) :
    leadersFrom column hidden.length (hidden ++ rest) =
      leadersFrom (column + hidden.length) 0 rest := by
  induction hidden generalizing column with
  | nil => rfl
  | cons cell cells inductionHypothesis =>
      rw [List.length_cons, List.cons_append, leadersFrom, inductionHypothesis, Nat.add_assoc,
        Nat.add_comm 1]

/-- A tiled row is as long as its tiles are wide. -/
theorem Tiled.sum_leadersFrom {row : Row} {due : Nat} (tiled : row.Tiled due) (column : Nat) :
    ((leadersFrom column due row).map fun leader => leader.cell.width).sum + due = row.length := by
  induction row generalizing due column with
  | nil =>
      obtain rfl : due = 0 := tiled
      rfl
  | cons cell rest inductionHypothesis =>
      cases due with
      | succ due =>
          have further := inductionHypothesis tiled.2.2 (column + 1)
          rw [leadersFrom, List.length_cons]
          omega
      | zero =>
          obtain ⟨positive, _, further⟩ := tiled
          have others := inductionHypothesis further (column + 1)
          simp only [leadersFrom, Cell.isLeader, positive, decide_true, if_true, List.map_cons,
            List.sum_cons, List.length_cons]
          omega

theorem Tiled.sum_tiles {row : Row} (tiled : row.Tiled 0) :
    (row.tiles.map Prod.snd).sum = row.length := by
  rw [tiles, List.map_map]
  exact tiled.sum_leadersFrom 0

theorem tiles_cover (cluster : Text) (flags : Flags) (rest : Row) :
    tiles (cover cluster cluster.drawnWidth flags ++ rest) =
      (cluster, cluster.drawnWidth) :: rest.tiles := by
  have behind := leadersFrom_hidden 1
    (List.replicate (cluster.drawnWidth - 1) (.continuation flags)) rest
  rw [List.length_replicate] at behind
  have seen : (Cell.leader cluster cluster.drawnWidth flags).isLeader = true :=
    decide_eq_true cluster.drawnWidth_pos
  simp only [tiles, leaders, cover, List.cons_append, leadersFrom, seen, if_true, List.map_cons]
  exact congrArg _ ((congrArg _ behind).trans (map_leadersFrom_congr rfl ..))

theorem tiles_cells (drawing : Drawing) (rest : Row) :
    tiles (drawing.cells ++ rest) =
      (drawing.map fun drawn => (drawn.1, drawn.1.drawnWidth)) ++ rest.tiles := by
  induction drawing with
  | nil => rfl
  | cons drawn drawing inductionHypothesis =>
      rw [Drawing.cells_cons, List.append_assoc, tiles_cover, inductionHypothesis]
      rfl

theorem tiles_blank (width : Nat) :
    (blank width).tiles = List.replicate width ([' '], 1) := by
  induction width with
  | zero => rfl
  | succ width inductionHypothesis =>
      rw [List.replicate_succ, ← inductionHypothesis]
      exact congrArg _ (map_leadersFrom_congr rfl ..)

/-- The clusters that fit are seen whole, and single blanks behind them. -/
theorem tiles_painted (width : Nat) (drawing : Drawing) :
    (painted width drawing).tiles =
      ((drawing.fitting width).map fun drawn => (drawn.1, drawn.1.drawnWidth)) ++
        List.replicate (width - (drawing.fitting width).total) ([' '], 1) := by
  rw [painted, tiles_cells, tiles_blank]

end Row

namespace DrawnRow

theorem sameText_painted (width : Nat) (row : DrawnRow) :
    (row.painted width).SameText (Row.painted width row.drawing) := by
  cases highlighted : row.highlight? with
  | none => simp [painted, highlighted, Row.SameText]
  | some span =>
      simp only [painted, highlighted]
      exact Row.sameText_addFlags ..

theorem tiled_painted (width : Nat) (row : DrawnRow) : (row.painted width).Tiled 0 :=
  (row.sameText_painted width).tiled (Row.tiled_cells _ (Row.tiled_blank _))

end DrawnRow

/-- The row shows a front of the drawing and blanks behind it. Every cluster is shown whole, and the
first one that is not shown has no room. -/
structure Row.Shows (row : Row) (drawing : Drawing) : Prop where
  tiled : row.Tiled 0
  whole : ∃ kept dropped, drawing = kept ++ dropped ∧
    row.tiles = (kept.map fun drawn => (drawn.1, drawn.1.drawnWidth)) ++
      List.replicate (row.length - Drawing.total kept) ([' '], 1) ∧
    ∀ drawn ∈ dropped.head?, row.length < Drawing.total kept + drawn.1.drawnWidth

theorem DrawnRow.shows_painted (width : Nat) (row : DrawnRow) :
    (row.painted width).Shows row.drawing := by
  refine ⟨row.tiled_painted width, ?_⟩
  rw [(row.sameText_painted width).tiles_eq, Row.tiles_painted, length_painted]
  rcases row.drawing.fitting_cases width with whole | ⟨dropped, rest, cut, narrow⟩
  · exact ⟨row.drawing.fitting width, [], by rw [whole, List.append_nil], rfl, by simp⟩
  · refine ⟨row.drawing.fitting width, dropped :: rest, cut, rfl, fun drawn first => ?_⟩
    obtain rfl := Option.some.inj first
    exact narrow

/-- A frame of the size of the screen with one row for each drawing, and with the cursor in its
first row. -/
structure Composed.WellFormed (composed : Composed) (size : ScreenSize) (rows : List DrawnRow) :
    Prop where
  width_eq : composed.frame.width = size.columns
  height_le : composed.frame.height ≤ max 1 size.rows
  long : ∀ row ∈ composed.frame.rows, row.length = size.columns ∧
    (row.tiles.map Prod.snd).sum = size.columns
  shows : List.Forall₂ (fun row drawn => row.Shows drawn.drawing) composed.frame.rows rows
  cursor_lt : composed.cursor < max 1 size.columns

namespace Compose

/-- The box and the search leave the rows above the prompt alone. -/
theorem length_drawnRows_le (editor : Editor) :
    (drawnRows editor).length ≤ max 1 editor.size.rows := by
  rw [drawnRows]
  split
  · have few := length_shownMatches_le editor
    rw [List.length_cons, List.length_map]
    omega
  · have few := length_shownBox_le editor
    rw [List.length_cons, List.length_map]
    omega

theorem lineCursor_lt (editor : Editor) : lineCursor editor < max 1 editor.size.columns := by
  have reported := Nat.mod_le (min (editor.lineView.column -
    (editor.lineView.column + 1 - editor.size.columns)) (editor.size.columns - 1)) 65536
  simp only [lineCursor, screenWord]
  omega

theorem promptCursor_lt (editor : Editor) : promptCursor editor < max 1 editor.size.columns := by
  have inside := (promptRow editor).drawing.total_fitting_le editor.size.columns
  simp only [promptCursor]
  omega

end Compose

/-- The painted rows of an editor are in order. -/
theorem wellFormed_painted {editor : Editor} {cursor : Nat}
    (inside : cursor < max 1 editor.size.columns) :
    Composed.WellFormed ⟨⟨editor.size.columns,
      (Compose.drawnRows editor).map (DrawnRow.painted editor.size.columns)⟩, cursor⟩ editor.size
      (Compose.drawnRows editor) where
  width_eq := rfl
  height_le := by
    rw [Frame.height, List.length_map]
    exact Compose.length_drawnRows_le editor
  long row member := by
    obtain ⟨drawn, _, rfl⟩ := List.mem_map.1 member
    rw [(drawn.tiled_painted _).sum_tiles]
    exact ⟨drawn.length_painted _, drawn.length_painted _⟩
  shows := List.forall₂_map_left_iff.2 (List.forall₂_same.2 fun drawn _ => drawn.shows_painted _)
  cursor_lt := inside

/-- What the screen shows is in order if every row has room for its drawing, and else nothing is
shown. -/
theorem Editor.wellFormed_compose {editor : Editor} (columns : editor.size.columns ≤ 65535)
    (rows : editor.size.rows ≤ 65535) :
    (editor.Drawable → ∃ composed, editor.compose = some composed ∧
        composed.WellFormed editor.size (Compose.drawnRows editor)) ∧
      (¬ editor.Drawable → editor.compose = none) := by
  cases searching : editor.search.active with
  | true =>
      rw [compose_of_searching searching columns rows]
      exact ⟨fun drawable => ⟨_, if_pos drawable,
        wellFormed_painted (Compose.promptCursor_lt editor)⟩, fun undrawable => if_neg undrawable⟩
  | false =>
      rw [compose_of_editing searching columns]
      exact ⟨fun drawable => ⟨_, if_pos drawable,
        wellFormed_painted (Compose.lineCursor_lt editor)⟩, fun undrawable => if_neg undrawable⟩

end Promptline
