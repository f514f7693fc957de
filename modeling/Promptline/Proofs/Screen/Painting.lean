/-
This file proves what a terminal shows after a frame is painted. Every row of the frame whose
clusters stay apart in print is shown as it is, and nothing else changes or stays on the screen.
-/

import Promptline.Proofs.Screen.Terminal
import Promptline.Proofs.Screen.Tiling

namespace Promptline

/-- Whether a row is tiled is seen cell by cell. -/
def Row.decidableTiled : (due : Nat) → (row : Row) → Decidable (row.Tiled due)
  | due, [] => inferInstanceAs (Decidable (due = 0))
  | due + 1, cell :: rest =>
      have := decidableTiled due rest
      inferInstanceAs (Decidable (cell.width = 0 ∧ cell.cluster = [] ∧ Row.Tiled due rest))
  | 0, cell :: rest =>
      have := decidableTiled (cell.width - 1) rest
      inferInstanceAs (Decidable (0 < cell.width ∧ cell.width = cell.cluster.drawnWidth ∧
        Row.Tiled (cell.width - 1) rest))

instance (due : Nat) (row : Row) : Decidable (row.Tiled due) := Row.decidableTiled due row

/-- The frame has a row at least, and its rows are as long as it is wide and tiled by clusters
without control characters. -/
structure Frame.Tiled (frame : Frame) : Prop where
  high : frame.rows ≠ []
  long : ∀ row ∈ frame.rows, row.length = frame.width
  tiled : ∀ row ∈ frame.rows, row.Tiled 0
  whole : ∀ row ∈ frame.rows, ∀ leader ∈ row.leaders,
    leader.cell.cluster.clusters = [leader.cell.cluster]
  clean : ∀ row ∈ frame.rows, ∀ leader ∈ row.leaders, leader.cell.cluster.OnOneLine

instance (frame : Frame) : Decidable frame.Tiled :=
  decidable_of_iff
    (frame.rows ≠ [] ∧ ∀ row ∈ frame.rows, row.length = frame.width ∧ row.Tiled 0 ∧
      ∀ leader ∈ row.leaders, leader.cell.cluster.clusters = [leader.cell.cluster] ∧
        leader.cell.cluster.OnOneLine)
    ⟨fun ⟨high, rows⟩ => ⟨high, fun row member => (rows row member).1,
      fun row member => (rows row member).2.1,
      fun row member leader found => ((rows row member).2.2 leader found).1,
      fun row member leader found => ((rows row member).2.2 leader found).2⟩,
    fun tiled => ⟨tiled.high, fun row member => ⟨tiled.long row member, tiled.tiled row member,
      fun leader found => ⟨tiled.whole row member leader found,
        tiled.clean row member leader found⟩⟩⟩⟩

/-- The leaders stand side by side from a column on, each as wide as its cluster is drawn. -/
def Leader.Placed : Nat → List Leader → Prop
  | _, [] => True
  | column, leader :: rest =>
      leader.column = column ∧ leader.cell.width = leader.cell.cluster.drawnWidth ∧
        Placed (column + leader.cell.width) rest

theorem Leader.Placed.of_append {column : Nat} {front back : List Leader}
    (placed : Placed column (front ++ back)) : Placed column front := by
  induction front generalizing column with
  | nil => trivial
  | cons leader rest inductionHypothesis =>
      obtain ⟨stands, drawn, others⟩ := placed
      exact ⟨stands, drawn, inductionHypothesis others⟩

/-- The leaders are as wide as what they draw. -/
theorem Leader.Placed.total_eq {column : Nat} {leaders : List Leader}
    (placed : Placed column leaders) :
    Drawing.total (leaders.map Leader.drawn) =
      (leaders.map fun leader => leader.cell.width).sum := by
  induction leaders generalizing column with
  | nil => rfl
  | cons leader rest inductionHypothesis =>
      obtain ⟨_, drawn, others⟩ := placed
      rw [List.map_cons, List.map_cons, Drawing.total_cons, List.sum_cons,
        inductionHypothesis others, drawn]
      rfl

namespace Row

theorem Tiled.placed_leadersFrom {row : Row} {due : Nat} (tiled : row.Tiled due) (column : Nat) :
    Leader.Placed (column + due) (leadersFrom column due row) := by
  induction row generalizing due column with
  | nil => trivial
  | cons cell rest inductionHypothesis =>
      cases due with
      | succ due =>
          have further := inductionHypothesis tiled.2.2 (column + 1)
          rwa [Nat.add_assoc, Nat.add_comm 1] at further
      | zero =>
          obtain ⟨positive, drawn, others⟩ := tiled
          have further := inductionHypothesis others (column + 1)
          rw [Nat.add_assoc, Nat.add_sub_cancel' positive] at further
          simp only [leadersFrom, Cell.isLeader, positive, decide_true, if_true]
          exact ⟨rfl, drawn, further⟩

/-- The leader is written at its column with its flags. -/
def place (screen : Row) (leader : Leader) : Row :=
  screen.write leader.column (cover leader.cell.cluster leader.cell.width leader.cell.flags)

/-- The leaders of the row at their columns, up to the white space without flags at its end, and
blanks in all other columns. -/
def shown (width : Nat) (row : Row) : Row :=
  row.solid.foldl place (blank width)

/-- Leaders that stand side by side are drawn one behind the other. -/
theorem foldl_place {front : List Cell} {room : Nat} {leaders : List Leader}
    (placed : Leader.Placed front.length leaders)
    (inside : Drawing.total (leaders.map Leader.drawn) ≤ room) :
    leaders.foldl place (front ++ blank room) =
      front ++ painted room (leaders.map Leader.drawn) := by
  induction leaders generalizing front room with
  | nil => rfl
  | cons leader rest inductionHypothesis =>
      obtain ⟨stands, drawn, others⟩ := placed
      rw [List.map_cons, Drawing.total_cons] at inside
      have fits : leader.drawn.1.drawnWidth ≤ room := by omega
      have further := @inductionHypothesis
        (front ++ cover leader.cell.cluster leader.cell.cluster.drawnWidth leader.cell.flags)
        (room - leader.drawn.1.drawnWidth) (by rwa [length_append_cover, ← drawn]) (by omega)
      rw [List.foldl_cons, place, stands, drawn, write_append_blank,
        length_cover leader.cell.cluster.drawnWidth_pos, List.map_cons, painted_cons_of_le fits,
        ← List.append_assoc]
      exact further

/-- What the leaders draw fits into a row that is long enough. -/
theorem Tiled.total_solid_le {row : Row} (tiled : row.Tiled 0) :
    Drawing.total (row.solid.map Leader.drawn) ≤ row.length := by
  obtain ⟨erased, whole⟩ := List.rdropWhile_prefix Leader.isErased row.leaders
  have total := (tiled.placed_leadersFrom 0).total_eq
  have sum := tiled.sum_leadersFrom 0
  rw [← leaders, ← whole, List.map_append, Drawing.total_append] at total
  rw [← leaders, ← whole] at sum
  rw [solid]
  omega

theorem Tiled.shown_eq {row : Row} (tiled : row.Tiled 0) {width : Nat}
    (wide : row.length ≤ width) :
    row.shown width = painted width (row.solid.map Leader.drawn) := by
  obtain ⟨erased, whole⟩ := List.rdropWhile_prefix Leader.isErased row.leaders
  have placed := tiled.placed_leadersFrom 0
  rw [← leaders, ← whole] at placed
  exact @foldl_place [] width row.solid placed.of_append
    (Nat.le_trans tiled.total_solid_le wide)

/-- The clusters that stand in the cells. -/
def clustersOf (row : Row) : Drawing :=
  (row.filter Cell.isLeader).map fun cell => (cell.cluster, cell.flags)

theorem clustersOf_append (first second : Row) :
    clustersOf (first ++ second) = first.clustersOf ++ second.clustersOf := by
  rw [clustersOf, List.filter_append, List.map_append, clustersOf, clustersOf]

theorem clustersOf_cells (drawing : Drawing) : clustersOf drawing.cells = drawing := by
  induction drawing with
  | nil => rfl
  | cons drawn rest inductionHypothesis =>
      have seen : (Cell.leader drawn.1 drawn.1.drawnWidth drawn.2).isLeader = true :=
        decide_eq_true drawn.1.drawnWidth_pos
      have hidden : (List.replicate (drawn.1.drawnWidth - 1) (Cell.continuation drawn.2)).filter
          Cell.isLeader = [] :=
        List.filter_eq_nil_iff.2 fun cell member => by
          rw [List.eq_of_mem_replicate member]
          exact Bool.false_ne_true
      rw [Drawing.cells_cons, clustersOf_append, inductionHypothesis, clustersOf, cover,
        List.filter_cons_of_pos seen, hidden]
      rfl

/-- The cells of a painted row tell which clusters fitted. -/
theorem clustersOf_painted (width : Nat) (drawing : Drawing) :
    (painted width drawing).clustersOf = drawing.fitting width ++
      List.replicate (width - (drawing.fitting width).total) ([' '], .none) := by
  rw [painted, clustersOf_append, clustersOf_cells, clustersOf, blank,
    List.filter_eq_self.2 fun cell member => by rw [List.eq_of_mem_replicate member]; rfl,
    List.map_replicate]
  rfl

end Row

theorem Drawing.length_text_blanks (count : Nat) :
    (Drawing.text (List.replicate count ([' '], .none))).length = count := by
  simp [Drawing.text]

/-- Blanks at the end hide no difference to a text that is as long and ends with no blank. -/
theorem Drawing.eq_of_append_blanks {kept whole : Drawing} {spare room : Nat}
    (same : kept ++ List.replicate spare ([' '], .none) =
      whole ++ List.replicate room ([' '], .none))
    (short : kept.text.length ≤ whole.text.length)
    (solid : whole.getLast? ≠ some ([' '], .none)) : kept = whole := by
  have lengths := congrArg (fun drawing : Drawing => drawing.text.length) same
  simp only [Drawing.text_append, List.length_append, Drawing.length_text_blanks] at lengths
  obtain ⟨more, rfl⟩ : ∃ more, spare = more + room := ⟨spare - room, by omega⟩
  rw [List.replicate_add, ← List.append_assoc, List.append_cancel_right_eq] at same
  cases more with
  | zero => rwa [List.replicate_zero, List.append_nil] at same
  | succ more =>
      rw [← same, List.replicate_succ', ← List.append_assoc, List.getLast?_concat] at solid
      exact absurd rfl solid

/-- A drawing that spells a front of another one is painted like it only if it is the same, where
the other one fits and does not end with a blank. -/
theorem Drawing.eq_of_painted_eq {width : Nat} {drawing whole : Drawing}
    (same : Row.painted width drawing = Row.painted width whole) (fits : whole.total ≤ width)
    (front : drawing.text <+: whole.text) (opened : ∀ drawn ∈ drawing, drawn.1 ≠ [])
    (solid : whole.getLast? ≠ some ([' '], .none)) : drawing = whole := by
  have cells := congrArg Row.clustersOf same
  have all : whole.fitting width = whole := by
    have cut := Drawing.fitting_append fits []
    rwa [List.append_nil, Drawing.fitting, List.append_nil] at cut
  obtain ⟨dropped, cut⟩ := drawing.fitting_isPrefix width
  have longer := front.length_le
  rw [← cut, Drawing.text_append, List.length_append] at longer
  rw [Row.clustersOf_painted, Row.clustersOf_painted, all] at cells
  rw [Drawing.eq_of_append_blanks cells (Nat.le_trans (Nat.le_add_right ..) longer) solid]
    at cut longer
  cases dropped with
  | nil => rw [← cut, List.append_nil]
  | cons drawn rest =>
      have held := List.length_pos_of_ne_nil
        (opened drawn (cut ▸ List.mem_append_right _ List.mem_cons_self))
      rw [Drawing.text_cons, List.length_append] at longer
      omega

namespace Row

/-- The row is shown by what is printed of it exactly if it is legible. -/
theorem painted_printed_eq_shown_iff {row : Row} (tiled : row.Tiled 0)
    (whole : ∀ leader ∈ row.leaders, leader.cell.cluster.clusters = [leader.cell.cluster])
    {width : Nat} (wide : row.length ≤ width) :
    painted width row.printed = row.shown width ↔ row.Legible := by
  rw [tiled.shown_eq wide, legible_iff whole]
  refine ⟨fun same => ?_, fun same => by rw [same]⟩
  refine Drawing.eq_of_painted_eq same (Nat.le_trans tiled.total_solid_le wide) ?_ ?_ ?_
  · rw [printed_eq_solid]
    exact Run.text_printed_isPrefix row.solid
  · exact fun drawn member => Run.ne_nil_of_mem_printed member
  · intro blank
    rcases List.eq_nil_or_concat row.solid with none | ⟨leaders, leader, known⟩
    · rw [none] at blank
      simp at blank
    · rw [List.concat_eq_append] at known
      rw [known, List.map_append, List.map_singleton, List.getLast?_concat] at blank
      obtain ⟨cluster, flags⟩ := Prod.mk.inj (Option.some.inj blank)
      have erased := isErased_of_solid_concat known
      rw [Leader.isErased, cluster, flags] at erased
      exact absurd erased (by decide)

end Row

/-- What a terminal shows after some rows were painted from the row of its cursor on. A row is shown
exactly if it is legible, and the rows above and below do not depend on that. -/
structure Terminal.Shows (before after : Terminal) (rows : List Row) : Prop where
  above : ∀ y < before.y, after.row y = before.row y
  shown : ∀ y row, rows[y]? = some row →
    (after.row (before.y + y) = row.shown before.width ↔ row.Legible)
  below : ∀ y, before.y + rows.length ≤ y → after.row y = Row.blank before.width
  plain : after.flags = .none
  width : after.width = before.width

/-- The frame is shown from the row of the cursor on. -/
theorem Frame.Tiled.shows {composed : Composed} (tiled : composed.frame.Tiled)
    {terminal : Terminal} (wide : composed.frame.width ≤ terminal.width)
    (plain : terminal.flags = .none) :
    terminal.Shows (terminal.run (Paint.frame composed)) composed.frame.rows := by
  rw [Terminal.run_frame tiled.high terminal plain]
  refine ⟨fun y above => ?_, fun y row found => ?_, fun y below => ?_, plain, rfl⟩
  · dsimp only
    rw [if_pos (by omega), Terminal.stacked_of_lt _ _ above]
  · have member := List.mem_of_getElem? found
    obtain ⟨within, _⟩ := List.getElem?_eq_some_iff.1 found
    have inside : terminal.y + y < terminal.y + composed.frame.height :=
      Nat.add_lt_add_left within _
    have painted := @Terminal.stacked_add terminal.row terminal.y
      (composed.frame.rows.map fun row => Row.painted terminal.width row.printed) y _
      (by rw [List.getElem?_map, found]; rfl)
    dsimp only
    rw [if_pos inside, painted]
    exact Row.painted_printed_eq_shown_iff (tiled.tiled row member) (tiled.whole row member)
      (tiled.long row member ▸ wide)
  · exact if_neg (Nat.not_lt.2 below)

/-- The first row of a frame is a frame by itself. -/
theorem Frame.Tiled.take_one {frame : Frame} (tiled : frame.Tiled) :
    Frame.Tiled { frame with rows := frame.rows.take 1 } := by
  have within {row : Row} (member : row ∈ frame.rows.take 1) : row ∈ frame.rows :=
    List.mem_of_mem_take member
  refine ⟨?_, fun row member => tiled.long row (within member),
    fun row member => tiled.tiled row (within member),
    fun row member => tiled.whole row (within member),
    fun row member => tiled.clean row (within member)⟩
  obtain ⟨first, rest, known⟩ := List.exists_cons_of_ne_nil tiled.high
  simp [known]

/-- A frame is painted from the row of the cursor on. The terminal shows exactly those of its rows
whose clusters stay apart in print, the rows above are untouched, everything below is erased, and
the cursor is back in its row. A line that is finished leaves only the first row of the frame, and
the cursor goes below it. -/
theorem Terminal.shows_run {composed : Composed} (tiled : composed.frame.Tiled)
    (terminal : Terminal) (wide : composed.frame.width ≤ terminal.width)
    (plain : terminal.flags = .none) :
    (terminal.Shows (terminal.run (Paint.frame composed)) composed.frame.rows ∧
      (terminal.run (Paint.frame composed)).x = composed.cursor ∧
      (terminal.run (Paint.frame composed)).y = terminal.y) ∧
    (terminal.Shows (terminal.run (Paint.finishLine composed)) (composed.frame.rows.take 1) ∧
      (terminal.run (Paint.finishLine composed)).x = 0 ∧
      (terminal.run (Paint.finishLine composed)).y = terminal.y + 1) := by
  have painted := terminal.run_frame tiled.high plain
  let line : Composed :=
    { composed with frame := { composed.frame with rows := composed.frame.rows.take 1 } }
  have lineTiled : line.frame.Tiled := tiled.take_one
  have lineShown := @Frame.Tiled.shows line lineTiled terminal wide plain
  have linePainted := terminal.run_frame lineTiled.high plain
  have finished : terminal.run (Paint.finishLine composed) =
      { terminal.run (Paint.frame line) with x := 0, y := terminal.y + 1 } := by
    have cut : Paint.finishLine composed = Paint.frame line ++ [.newLine, .column 0] := rfl
    rw [cut, run_append, linePainted]
    rfl
  refine ⟨⟨tiled.shows wide plain, ?_, ?_⟩, ?_, ?_, ?_⟩
  · rw [painted]
  · rw [painted]
  · rw [finished]
    exact ⟨lineShown.above, lineShown.shown, lineShown.below, lineShown.plain, lineShown.width⟩
  · rw [finished]
  · rw [finished]

namespace Painting

/-- A letter and an accent in cells of their own. -/
def apart : Frame := ⟨3, [[.leader ['a'] 1 .none, .leader ['\u0301'] 1 .none, .blank]]⟩

/-- The frame that holds the two when they are put into it one by one. -/
example :
    ((Frame.blank 3 1).put 0 0 ['a'] .none).bind (fun written =>
      written.1.put written.2 0 ['\u0301'] .none) = some (apart, 2) := by decide

/-- The letter with its accent in one cell. -/
def together : Frame := ⟨3, [[.leader ['a', '\u0301'] 1 .none, .blank, .blank]]⟩

/-- A plain letter and a dimmed wide one above two reversed letters. -/
def styled : Frame :=
  ⟨4, [[.leader ['$'] 1 .none, .leader ['界'] 2 .dimmed, .continuation .dimmed, .blank],
    [.leader ['g'] 1 .reversed, .leader ['i'] 1 .reversed, .blank, .blank]]⟩

/-- A screen full of old text with the cursor in the middle. -/
def full : Terminal := ⟨5, fun _ => List.replicate 5 (.leader ['#'] 1 .none), 3, 7, .none⟩

/-- A frame of two rows takes the place of the old text. -/
theorem shows_run_styled :
    styled.Tiled ∧ styled.width ≤ full.width ∧ full.flags = .none ∧
      (full.run (Paint.frame ⟨styled, 1⟩)).row 6 = full.row 6 ∧
      (full.run (Paint.frame ⟨styled, 1⟩)).row 7 = (styled.row 0).shown 5 ∧
      (full.run (Paint.frame ⟨styled, 1⟩)).row 8 = (styled.row 1).shown 5 ∧
      (full.run (Paint.frame ⟨styled, 1⟩)).row 9 = Row.blank 5 ∧
      (full.run (Paint.frame ⟨styled, 1⟩)).x = 1 ∧
      (full.run (Paint.finishLine ⟨styled, 1⟩)).row 8 = Row.blank 5 ∧
      (full.run (Paint.finishLine ⟨styled, 1⟩)).y = 8 := by
  have tiled : styled.Tiled := by decide
  have wide : styled.width ≤ full.width := by decide
  have legible : (styled.row 0).Legible ∧ (styled.row 1).Legible := by decide
  obtain ⟨⟨painted, column, _⟩, finished, _, below⟩ :=
    @Terminal.shows_run ⟨styled, 1⟩ tiled full wide rfl
  exact ⟨tiled, wide, rfl, painted.above 6 (by decide),
    (painted.shown 0 _ rfl).2 legible.1, (painted.shown 1 _ rfl).2 legible.2,
    painted.below 9 (by decide), column, finished.below 8 (by decide), below⟩

/-- The accent is printed behind the letter in one text. The two frames look different, and nobody
who sees the commands can tell them apart: the terminal shows the accent on the letter. -/
theorem not_shown_apart :
    apart.Tiled ∧ together.Tiled ∧
      Paint.frame ⟨apart, 2⟩ = Paint.frame ⟨together, 2⟩ ∧
      (apart.row 0).shown 5 ≠ (together.row 0).shown 5 ∧
      (full.run (Paint.frame ⟨apart, 2⟩)).row 7 = (together.row 0).shown 5 := by
  decide

end Painting

end Promptline
