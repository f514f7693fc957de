/-
This file finds the selected candidate on the screen. The box highlights it in its row, and the row
is on the screen if and only if the terminal is high enough for it.
-/

import Promptline.Proofs.Editor.Reachable
import Promptline.Proofs.Screen.BoxRow

namespace Promptline

theorem Flags.reverse_union_reversed (flags : Flags) :
    (flags.union .reversed).reverse = true := by
  simp [union, reversed]

namespace DrawnRow

/-- Of a row that is drawn without reversed clusters, the highlighted cells are reversed. -/
theorem reverse_painted_iff {width : Nat} {row : DrawnRow}
    (plain : ∀ drawn ∈ row.drawing, drawn.2.reverse = false) (place : Nat) :
    (∃ cell, (row.painted width)[place]? = some cell ∧ cell.flags.reverse = true) ↔
      place < width ∧ ∃ span ∈ row.highlight?, span.1 ≤ place ∧ place < span.1 + span.2 := by
  have unlit : ∀ cell ∈ Row.painted width row.drawing, cell.flags.reverse = false := by
    intro cell member
    rcases Row.flags_of_mem_painted member with none | ⟨drawn, held, same⟩
    · rw [none]
      rfl
    · rw [same]
      exact plain drawn held
  have long := Row.length_painted width row.drawing
  cases highlighted : row.highlight? with
  | none =>
      simp only [painted, highlighted]
      constructor
      · rintro ⟨cell, found, lit⟩
        rw [unlit cell (List.mem_of_getElem? found)] at lit
        contradiction
      · simp
  | some span =>
      simp only [painted, highlighted, Row.getElem?_addFlags, Option.mem_some, exists_eq_left']
      constructor
      · rintro ⟨cell, found, lit⟩
        obtain ⟨old, held, rfl⟩ := Option.map_eq_some_iff.1 found
        have inside := (List.getElem?_eq_some_iff.1 held).1
        split at lit
        next within => exact ⟨by omega, within⟩
        next =>
          rw [unlit old (List.mem_of_getElem? held)] at lit
          contradiction
      · rintro ⟨inside, within⟩
        have reached : place < (Row.painted width row.drawing).length := by omega
        rw [List.getElem?_eq_getElem reached]
        exact ⟨_, by rw [Option.map_some, if_pos within], Flags.reverse_union_reversed _⟩

/-- From the start of its highlight on, a row holds the text behind it, highlighted. -/
theorem drop_painted {columns : Nat} {front behind : Text} (before : front.Solid)
    (after : behind.Solid) (narrow : front.width < columns) (span : Nat) :
    (DrawnRow.painted columns
        ⟨(Text.truncate columns (front ++ behind)).clusters.map fun cluster => (cluster, .none),
          some (front.width, span)⟩).drop front.width =
      (Row.painted (columns - front.width)
        ((behind.truncate (columns - front.width)).clusters.map fun cluster =>
          (cluster, .none))).addFlags 0 span .reversed := by
  have total := Drawing.total_of_plain before.plain .none
  have reached : front.width = (Drawing.cells (front.clusters.map fun cluster =>
      (cluster, Flags.none))).length := by
    rw [Drawing.length_cells, total]
  rw [before.truncate_append after narrow, before.clusters_append (after.truncate _),
    List.map_append]
  simp only [painted]
  rw [Row.painted_append (by omega), total, reached, Row.drop_addFlags, Drawing.length_cells, total]

end DrawnRow

namespace Editor

/-- The box is open, and the candidate is the selected one. -/
structure Highlights (editor : Editor) (selected : Nat) (candidate : Candidate) : Prop where
  editing : editor.mode = .edit
  boxed : editor.completion.isBoxed = true
  chosen : editor.completion.selected? = some selected
  found : editor.completion.candidates[selected]? = some candidate

end Editor

namespace Compose

/-- The rows below the help that the terminal and the options leave to the candidates. -/
def candidateRows (editor : Editor) : Nat :=
  editor.options.completionHeight - (helpRows editor).length

/-- The cell of the selected candidate. -/
def selectedCell (editor : Editor) (selected : Nat) (candidate : Candidate) : BoxCell :=
  CompletionBox.cellOf (candidateRows editor) (some selected) selected
    (selected % (candidateRows editor * (candidateBox editor).columns)) candidate

section Highlights

variable {editor : Editor} {selected : Nat} {candidate : Candidate}
  (highlights : editor.Highlights selected candidate)

include highlights

theorem candidateBox_eq : candidateBox editor =
    CompletionBox.arrange editor.completion.candidates (some selected) editor.size.columns
      (candidateRows editor) editor.options.itemWidth := by
  rw [candidateBox, highlights.chosen]
  rfl

variable (room : 0 < editor.size.columns) (word : editor.size.columns ≤ 65535)
  (high : 0 < candidateRows editor) (small : editor.options.completionHeight ≤ 65535)

include room word high small

/-- The cell starts left of the right edge. -/
theorem start_selectedCell_lt :
    (selectedCell editor selected candidate).column * (candidateBox editor).itemWidth <
      editor.size.columns := by
  have few : candidateRows editor ≤ 65535 := Nat.le_trans (Nat.sub_le _ _) small
  obtain ⟨known, offered⟩ := List.getElem?_eq_some_iff.1 highlights.found
  have filled := List.ne_nil_of_length_pos (Nat.zero_lt_of_lt known)
  have found := @CompletionBox.getElem?_cells_selected _ _ _ editor.options.itemWidth filled room
    high _ known
  have placed := @CompletionBox.wellPlaced_arrange _ _ _ editor.options.itemWidth filled room high
    (some selected) few word
  simp only [← candidateBox_eq highlights, offered] at found placed
  calc
    (selectedCell editor selected candidate).column * (candidateBox editor).itemWidth <
        (candidateBox editor).columns * (candidateBox editor).itemWidth :=
      Nat.mul_lt_mul_of_pos_right (placed.inside _ (List.mem_of_getElem? found)).1 placed.wide
    _ ≤ editor.size.columns := placed.fits

/-- The row of the selected candidate shows its label. -/
theorem exists_boxRow :
    let box := candidateBox editor
    let cell := selectedCell editor selected candidate
    let start := cell.column * box.itemWidth
    ∃ front more : Text,
      let written := front ++ cutLabel box cell ++ describe box cell
      boxRow box editor.size.columns (selected % candidateRows editor) =
          ⟨(written ++ more).truncate editor.size.columns, .none,
            some (start, screenWord (max (written.width - start) 1))⟩ ∧
        ((∀ candidate ∈ editor.completion.candidates, candidate.Solid) →
          front.Solid ∧ front.width = start ∧ more.Solid) := by
  intro box cell start
  have few : candidateRows editor ≤ 65535 := Nat.le_trans (Nat.sub_le _ _) small
  obtain ⟨known, offered⟩ := List.getElem?_eq_some_iff.1 highlights.found
  have filled := List.ne_nil_of_length_pos (Nat.zero_lt_of_lt known)
  obtain ⟨front, behind, cells, others⟩ :=
    @CompletionBox.exists_row _ _ _ editor.options.itemWidth filled room high few _ known
  rw [← candidateBox_eq highlights, offered] at cells
  change _ = front ++ cell :: behind at cells
  have chosen : cell.selected = true := decide_eq_true rfl
  obtain ⟨more, row, solid⟩ := boxRow_of_selected cells chosen others editor.size.columns
  have inside : start < editor.size.columns := start_selectedCell_lt highlights room word high small
  have start_eq : screenWord start = start := Nat.mod_eq_of_lt (by omega)
  rw [start_eq] at row
  let line := front.foldl (addCell box) []
  refine ⟨line ++ blanks (start - line.width), more, row, fun all => ?_⟩
  have blank := solid_blank
  have free := @width_line_le _ (some selected) _ _ editor.options.itemWidth _ filled room high word
    few (Nat.mod_lt selected high) _ Text.plainOver_solid blank
    (fun candidate member => (all candidate member).label) front behind cell
  rw [← candidateBox_eq highlights] at free
  obtain ⟨written, short⟩ := free cells
  obtain ⟨padded, begins⟩ := width_append_blanks Text.plainOver_solid blank written short
  refine ⟨padded, begins, solid fun cell member => ?_⟩
  have held : cell ∈ (candidateBox editor).cells.filter fun cell =>
      cell.row = selected % candidateRows editor := by
    rw [cells]
    exact List.mem_append_right _ (List.mem_cons_of_mem _ member)
  obtain ⟨candidate, offered, label, description⟩ :=
    CompletionBox.exists_candidate_of_mem_cells (List.mem_filter.1 held).1
  exact (all candidate offered).cell label description

omit word in
/-- Of all rows of the box only that of the selected candidate has a highlight. -/
theorem highlight?_of_mem_completionRows {place : Nat} {row : BoxRow}
    (found : (completionRows editor)[place]? = some row) :
    row.flags.reverse = false ∧
      (place ≠ (helpRows editor).length + selected % candidateRows editor →
        row.highlight? = none) ∧
      (place = (helpRows editor).length + selected % candidateRows editor →
        row = boxRow (candidateBox editor) editor.size.columns
          (selected % candidateRows editor)) := by
  have few : candidateRows editor ≤ 65535 := Nat.le_trans (Nat.sub_le _ _) small
  have known := (List.getElem?_eq_some_iff.1 highlights.found).1
  have elsewhere := (@CompletionBox.row_of_selected _ _ _ editor.options.itemWidth
    (List.ne_nil_of_length_pos (Nat.zero_lt_of_lt known)) room high few _ known).2
  rw [← candidateBox_eq highlights] at elsewhere
  rw [completionRows_of_boxed highlights.boxed] at found
  by_cases helping : place < (helpRows editor).length
  · rw [List.getElem?_append_left helping] at found
    have help := List.mem_of_getElem? found
    rw [helpRows] at help
    split at help
    · exact absurd help List.not_mem_nil
    · obtain rfl := List.mem_singleton.1 help
      exact ⟨rfl, fun _ => rfl, fun same => by omega⟩
  · rw [List.getElem?_append_right (Nat.le_of_not_lt helping)] at found
    obtain ⟨inside, rfl⟩ := List.getElem?_eq_some_iff.1 found
    rw [List.getElem_map, List.getElem_range]
    refine ⟨rfl, fun other => ?_, fun same => by rw [same, Nat.add_sub_cancel_left]⟩
    refine highlight?_boxRow_of_unselected fun cell member stands => ?_
    refine Bool.eq_false_iff.2 fun chosen => other ?_
    have row := elsewhere cell member chosen
    omega

omit word in
/-- The row of the selected candidate is among the rows of the box. -/
theorem getElem?_completionRows :
    (completionRows editor)[(helpRows editor).length + selected % candidateRows editor]? =
      some (boxRow (candidateBox editor) editor.size.columns
        (selected % candidateRows editor)) := by
  have few : candidateRows editor ≤ 65535 := Nat.le_trans (Nat.sub_le _ _) small
  have known := (List.getElem?_eq_some_iff.1 highlights.found).1
  have inside := (@CompletionBox.row_of_selected _ _ _ editor.options.itemWidth
    (List.ne_nil_of_length_pos (Nat.zero_lt_of_lt known)) room high few _ known).1
  rw [← candidateBox_eq highlights] at inside
  rw [completionRows_of_boxed highlights.boxed, List.getElem?_append_right (Nat.le_add_right _ _),
    Nat.add_sub_cancel_left, List.getElem?_map, List.getElem?_range inside]
  rfl

omit room word in
/-- The row of the selected candidate is on the screen if the terminal is high enough. -/
theorem getElem?_shownBox (place : Nat) :
    (shownBox editor)[place]? =
      if place + 1 < editor.size.rows then (completionRows editor)[place]? else none := by
  have counted : (completionRows editor).length ≤ 65535 := by
    have rows := CompletionBox.rows_arrange_le editor.completion.candidates (some selected)
      editor.size.columns (candidateRows editor) editor.options.itemWidth
    rw [← candidateBox_eq highlights] at rows
    rw [completionRows_of_boxed highlights.boxed, List.length_append, List.length_map,
      List.length_range]
    simp only [candidateRows] at rows high
    omega
  simp only [shownBox, ScreenSize.box, screenWord, Nat.mod_eq_of_lt (Nat.lt_succ_of_le counted),
    List.getElem?_take]
  by_cases inside : place < (completionRows editor).length
  · by_cases below : place + 1 < editor.size.rows
    · rw [if_pos (by omega), if_pos below]
    · rw [if_neg (by omega), if_neg below]
  · rw [List.getElem?_eq_none (Nat.le_of_not_lt inside), ite_self, ite_self]

variable {composed : Composed} (found : editor.compose = some composed)

include found

omit room high small in
/-- Below the input line stand the rows of the box. -/
theorem row_compose (place : Nat) :
    composed.frame.row (place + 1) =
      (((shownBox editor)[place]?).map fun row =>
        row.drawn.painted editor.size.columns).getD [] := by
  have inactive := Editor.mode_eq_edit_iff.1 highlights.editing
  rw [Editor.compose_of_editing inactive word, Option.ite_none_right_eq_some] at found
  obtain rfl := Option.some.inj found.2
  simp [Frame.row, drawnRows, inactive, List.getD_eq_getElem?_getD, Function.comp_def]

/-- Below the input line only the highlight of the selected candidate is reversed. -/
theorem reverse_compose_iff {text : Text} {start span : Nat}
    (drawn : boxRow (candidateBox editor) editor.size.columns (selected % candidateRows editor) =
      ⟨text, .none, some (start, span)⟩) (x place : Nat) :
    (∃ cell, composed.frame.cell? x (place + 1) = some cell ∧ cell.flags.reverse = true) ↔
      place = (helpRows editor).length + selected % candidateRows editor ∧
        place + 1 < editor.size.rows ∧ start ≤ x ∧ x < start + span ∧ x < editor.size.columns := by
  have shown := getElem?_shownBox highlights high small
  rw [Frame.cell?, row_compose highlights word found]
  cases standing : (shownBox editor)[place]? with
  | none =>
      apply iff_of_false (by simp)
      intro right
      obtain ⟨rfl, visible, _⟩ := right
      rw [shown, if_pos visible, getElem?_completionRows highlights room high small] at standing
      contradiction
  | some row =>
      rw [shown] at standing
      split at standing
      · obtain ⟨unlit, elsewhere, here⟩ :=
          highlight?_of_mem_completionRows highlights room high small standing
        have plain : ∀ drawn ∈ row.drawn.drawing, drawn.2.reverse = false := by
          intro drawn member
          obtain ⟨cluster, _, rfl⟩ := List.mem_map.1 member
          exact unlit
        rw [Option.map_some, Option.getD_some, DrawnRow.reverse_painted_iff plain]
        by_cases same : place = (helpRows editor).length + selected % candidateRows editor
        · have lit : row.drawn.highlight? = some (start, span) := by
            rw [here same, drawn]
            rfl
          simp only [lit, Option.mem_some, exists_eq_left']
          omega
        · have dark : row.drawn.highlight? = none := elsewhere same
          exact iff_of_false (by simp [dark]) fun right => same right.1
      · contradiction

end Highlights

end Compose

namespace Editor

/-- The cells of the selected candidate are the only reversed ones below the input line, and they
are on the screen if and only if the terminal has a row for them. Solid texts stand in their
columns, and then the highlight starts with the label and reaches over the description. Nothing is
shown if a row lacks room for its drawing, and only then. -/
theorem highlight_compose {editor : Editor} {selected : Nat} {candidate : Candidate}
    (highlights : editor.Highlights selected candidate) (room : 0 < editor.size.columns)
    (word : editor.size.columns ≤ 65535) (high : 0 < Compose.candidateRows editor)
    (small : editor.options.completionHeight ≤ 65535) :
    let box := Compose.candidateBox editor
    let cell := Compose.selectedCell editor selected candidate
    let start := cell.column * box.itemWidth
    let shown := Compose.cutLabel box cell ++ Compose.describe box cell
    let y := (Compose.helpRows editor).length + selected % Compose.candidateRows editor + 1
    (editor.compose.isSome ↔ editor.Drawable) ∧
    ∃ front more : Text,
      let span := screenWord (max (Text.width (front ++ shown) - start) 1)
      ∀ composed ∈ editor.compose,
        (∀ x row, 0 < row →
          ((∃ found, composed.frame.cell? x row = some found ∧ found.flags.reverse = true) ↔
            row = y ∧ y < editor.size.rows ∧ start ≤ x ∧ x < start + span ∧
              x < editor.size.columns)) ∧
        (y < editor.size.rows → composed.frame.row y = DrawnRow.painted editor.size.columns
          ⟨(Text.truncate editor.size.columns (front ++ shown ++ more)).clusters.map fun cluster =>
            (cluster, .none), some (start, span)⟩) ∧
        ((∀ candidate ∈ editor.completion.candidates, candidate.Solid) →
          front.width = start ∧ span = screenWord (max shown.width 1) ∧
          (y < editor.size.rows → (composed.frame.row y).drop start =
            (Row.painted (editor.size.columns - start)
              (((shown ++ more).truncate (editor.size.columns - start)).clusters.map fun cluster =>
                (cluster, .none))).addFlags 0 span .reversed)) := by
  intro box cell start shown y
  constructor
  · rw [compose_of_editing (mode_eq_edit_iff.1 highlights.editing) word, Option.isSome_ite]
  obtain ⟨front, more, drawn, solid⟩ := Compose.exists_boxRow highlights room word high small
  rw [List.append_assoc front] at drawn
  refine ⟨front, more, ?_⟩
  intro span composed found
  have painted : y < editor.size.rows → composed.frame.row y =
      DrawnRow.painted editor.size.columns
        ⟨(Text.truncate editor.size.columns (front ++ shown ++ more)).clusters.map fun cluster =>
          (cluster, .none), some (start, span)⟩ := by
    intro below
    rw [Compose.row_compose highlights word found,
      Compose.getElem?_shownBox highlights high small, if_pos below,
      Compose.getElem?_completionRows highlights room high small, drawn]
    rfl
  refine ⟨fun x row below => ?_, painted, fun all => ?_⟩
  · obtain ⟨place, rfl⟩ := Nat.exists_eq_add_one_of_ne_zero (Nat.pos_iff_ne_zero.1 below)
    rw [Compose.reverse_compose_iff highlights room word high small found drawn]
    exact ⟨by rintro ⟨rfl, rest⟩; exact ⟨rfl, rest⟩,
      fun right => ⟨Nat.add_right_cancel right.1, right.1 ▸ right.2.1, right.2.2⟩⟩
  · obtain ⟨before, width, after⟩ := solid all
    have offered : Compose.SolidCell cell :=
      (all candidate (List.mem_of_getElem? highlights.found)).cell rfl rfl
    have described : shown.Solid := (offered.cutLabel box).append (offered.describe box)
    have reach : Text.width (front ++ shown) - start = shown.width := by
      rw [before.width_append described, width]
      exact Nat.add_sub_cancel_left ..
    have narrow : front.width < editor.size.columns := by
      rw [width]
      exact Compose.start_selectedCell_lt highlights room word high small
    refine ⟨width, by rw [← reach], fun below => ?_⟩
    have cut := DrawnRow.drop_painted before (described.append after) narrow span
    rw [width] at cut
    rw [painted below, List.append_assoc]
    exact cut

/-- An editor on a screen of some rows in which the second of two candidates is selected. -/
def chosen (rows : Nat) : Editor :=
  let source := Source.ofCandidates fun _ _ => [.ofValue (Text.of "a"), .ofValue (Text.of "b")]
  let tab := Event.key (.plain .tab)
  (started EditorOptions.standard [] ⟨4, rows⟩ none).run [(source, tab), (source, tab)]

theorem highlights_chosen (rows : Nat) :
    (chosen rows).Highlights 1 (.ofValue (Text.of "b")) := ⟨rfl, rfl, rfl, rfl⟩

/-- On three rows the second candidate has the last one. -/
theorem highlight_on_last_row :
    let editor := chosen 3
    editor.Highlights 1 (.ofValue (Text.of "b")) ∧ 0 < editor.size.columns ∧
      editor.size.columns ≤ 65535 ∧ 0 < Compose.candidateRows editor ∧
      editor.options.completionHeight ≤ 65535 ∧
      ∃ composed ∈ editor.compose, ∃ found, composed.frame.cell? 0 2 = some found ∧
        found.flags.reverse = true := by
  intro editor
  have highlights : editor.Highlights 1 (.ofValue (Text.of "b")) := highlights_chosen 3
  have columns : editor.size.columns = 4 := rfl
  have rows : editor.size.rows = 3 := rfl
  have height : editor.options.completionHeight = 8 := rfl
  have room : Compose.candidateRows editor = 8 := by decide +kernel
  have solid : ∀ candidate ∈ editor.completion.candidates, candidate.Solid := by
    intro candidate member
    have plain : ∀ candidate ∈ editor.completion.candidates,
        candidate.label.Solid ∧ candidate.description? = none := by decide +kernel
    obtain ⟨label, bare⟩ := plain candidate member
    exact ⟨label, by simp [bare]⟩
  obtain ⟨composes, front, more, shown⟩ :=
    highlight_compose highlights (by omega) (by omega) (by omega) (by omega)
  obtain ⟨composed, found⟩ := Option.isSome_iff_exists.1 (composes.2 (drawable_of_ne (by omega)))
  obtain ⟨lit, _, cut⟩ := shown composed found
  obtain ⟨_, span, _⟩ := cut solid
  have place : (Compose.helpRows editor).length + 1 % Compose.candidateRows editor + 1 = 2 := by
    decide +kernel
  have start : (Compose.selectedCell editor 1 (.ofValue (Text.of "b"))).column *
      (Compose.candidateBox editor).itemWidth = 0 := by decide +kernel
  have width : screenWord (max (Text.width (Compose.cutLabel (Compose.candidateBox editor)
      (Compose.selectedCell editor 1 (.ofValue (Text.of "b"))) ++
        Compose.describe (Compose.candidateBox editor)
          (Compose.selectedCell editor 1 (.ofValue (Text.of "b"))))) 1) = 1 := by decide +kernel
  rw [width] at span
  rw [span, place, start] at lit
  exact ⟨highlights, by omega, by omega, by omega, by omega, composed, found,
    (lit 0 2 (by omega)).2 ⟨rfl, by omega, by omega, by omega, by omega⟩⟩

/-- On two rows the box still shows the page of both candidates, and the selected one is cut off. -/
theorem highlight_off_screen :
    let editor := chosen 2
    editor.Highlights 1 (.ofValue (Text.of "b")) ∧ 1 ≤ editor.size.columns ∧
      editor.completion.help = [] ∧ 2 ≤ editor.size.rows ∧ 1 ≤ editor.options.completionHeight ∧
      ∃ composed ∈ editor.compose,
        ∀ row ∈ composed.frame.rows.drop 1, ∀ cell ∈ row, cell.flags.reverse = false := by
  intro editor
  refine ⟨highlights_chosen 2, ?_, rfl, ?_, ?_, ?_⟩ <;> decide +kernel

end Editor

end Promptline
