/-
This file describes a row of the completion box. The cells of a row are joined from left to right,
and texts of separate characters stand in their columns.
-/

import Mathlib.Data.List.Induction
import Promptline.Proofs.Screen.Frame
import Promptline.Proofs.Screen.Paging

namespace Promptline

namespace Compose

/-- A row with its highlight goes on with another cell. -/
def joinCell (box : CompletionBox) (row : Text × Option (Nat × Nat)) (cell : BoxCell) :
    Text × Option (Nat × Nat) :=
  let line := addCell box row.1 cell
  (line, (highlightOf box line cell).or row.2)

theorem boxRow_eq (box : CompletionBox) (columns row : Nat) :
    boxRow box columns row =
      let joined := (box.cells.filter fun cell => cell.row = row).foldl (joinCell box) ([], none)
      ⟨joined.1.truncate columns, .none, joined.2⟩ := rfl

/-- Candidates that are not selected only add to the line. -/
theorem foldl_of_unselected {box : CompletionBox} {cells : List BoxCell}
    (unselected : ∀ cell ∈ cells, cell.selected = false) (line : Text)
    (highlight? : Option (Nat × Nat)) :
    cells.foldl (joinCell box) (line, highlight?) =
      (cells.foldl (addCell box) line, highlight?) := by
  induction cells generalizing line with
  | nil => rfl
  | cons cell rest inductionHypothesis =>
      obtain ⟨first, others⟩ := List.forall_mem_cons.1 unselected
      have unlit : highlightOf box (addCell box line cell) cell = none := by
        simp [highlightOf, first]
      simp only [List.foldl_cons, joinCell, unlit, Option.none_or]
      exact inductionHypothesis others _

/-- A row without the selected candidate has no highlight. -/
theorem highlight?_boxRow_of_unselected {box : CompletionBox} {columns row : Nat}
    (unselected : ∀ cell ∈ box.cells, cell.row = row → cell.selected = false) :
    (boxRow box columns row).highlight? = none := by
  have among : ∀ cell ∈ box.cells.filter fun cell => cell.row = row, cell.selected = false := by
    intro cell member
    obtain ⟨held, same⟩ := List.mem_filter.1 member
    exact unselected cell held (by simpa using same)
  simp only [boxRow_eq, foldl_of_unselected among]

theorem solid_blank : isSolid ' ' = true := by decide +kernel

theorem solid_blanks (count : Nat) : Text.Solid (blanks count) :=
  Text.solid_replicate solid_blank count

theorem width_blanks (count : Nat) : Text.width (blanks count) = count := by
  have single : Text.clusterWidth [' '] = 1 := by decide
  rw [blanks, Text.width_replicate solid_blank, single, Nat.mul_one]

/-- The texts of a cell are solid. -/
def SolidCell (cell : BoxCell) : Prop :=
  cell.label.Solid ∧ ∀ description ∈ cell.description?, Text.Solid description

theorem SolidCell.cutLabel {cell : BoxCell} (solid : SolidCell cell) (box : CompletionBox) :
    (cutLabel box cell).Solid := solid.1.truncate _

theorem SolidCell.describe {cell : BoxCell} (solid : SolidCell cell) (box : CompletionBox) :
    (describe box cell).Solid := by
  rw [Compose.describe]
  split
  next description described =>
    exact (solid_blanks _).append (solid.2 description described)
  · exact fun c member => absurd member List.not_mem_nil

/-- Cells add to a line, and solid cells add a solid text. -/
theorem exists_foldl_addCell (box : CompletionBox) (cells : List BoxCell) (line : Text) :
    ∃ more, cells.foldl (addCell box) line = line ++ more ∧
      ((∀ cell ∈ cells, SolidCell cell) → more.Solid) := by
  induction cells generalizing line with
  | nil => exact ⟨[], (List.append_nil line).symm, fun _ c member => absurd member List.not_mem_nil⟩
  | cons cell rest inductionHypothesis =>
      obtain ⟨more, added, solid⟩ := inductionHypothesis (addCell box line cell)
      refine ⟨blanks (cell.column * box.itemWidth - Text.width line) ++ cutLabel box cell ++
        describe box cell ++ more, ?_, fun all => ?_⟩
      · rw [List.foldl_cons, added, addCell]
        simp only [List.append_assoc]
      · obtain ⟨first, others⟩ := List.forall_mem_cons.1 all
        exact (((solid_blanks _).append (first.cutLabel box)).append (first.describe box)).append
          (solid others)

/-- The row of the selected candidate holds its label behind what comes before, and the highlight
reaches to the end of what is written for it. -/
theorem boxRow_of_selected {box : CompletionBox} {row : Nat} {before behind : List BoxCell}
    {cell : BoxCell}
    (cells : (box.cells.filter fun cell => cell.row = row) = before ++ cell :: behind)
    (selected : cell.selected = true)
    (others : ∀ cell ∈ before ++ behind, cell.selected = false) (columns : Nat) :
    ∃ more : Text,
      let start := cell.column * box.itemWidth
      let line := before.foldl (addCell box) []
      let front := line ++ blanks (start - Text.width line)
      let written := front ++ cutLabel box cell ++ describe box cell
      boxRow box columns row = ⟨(written ++ more).truncate columns, .none,
          some (screenWord start, screenWord (max (written.width - start) 1))⟩ ∧
        ((∀ cell ∈ behind, SolidCell cell) → more.Solid) := by
  obtain ⟨early, late⟩ := List.forall_mem_append.1 others
  obtain ⟨more, added, solid⟩ := exists_foldl_addCell box behind
    (addCell box (before.foldl (addCell box) []) cell)
  refine ⟨more, ?_⟩
  intro start line front written
  refine ⟨?_, solid⟩
  have lit : highlightOf box (addCell box line cell) cell =
      some (screenWord start, screenWord (max (written.width - start) 1)) := by
    rw [highlightOf, if_pos selected]
    rfl
  simp only [boxRow_eq, cells, List.foldl_append, List.foldl_cons, foldl_of_unselected early,
    joinCell]
  rw [lit, Option.some_or, foldl_of_unselected late, added]
  rfl

/-- Of several columns a cell adds its label only. -/
theorem addCell_of_several {box : CompletionBox} (several : 1 < box.columns) {cell : BoxCell}
    (bare : cell.description? = none) (narrow : cell.label.width < box.itemWidth) (line : Text) :
    addCell box line cell =
      line ++ blanks (cell.column * box.itemWidth - Text.width line) ++ cell.label := by
  have whole : cutLabel box cell = cell.label := by
    rw [cutLabel, if_pos several]
    exact Text.truncate_of_width_le (by omega)
  rw [addCell, whole, describe, bare, List.append_nil]

section Alphabet

variable {allowed : Char → Prop} (plain : Text.PlainOver allowed) (blank : allowed ' ')

include blank in
theorem allowed_blanks (count : Nat) : ∀ c ∈ blanks count, allowed c := by
  intro c member
  rwa [List.eq_of_mem_replicate member]

include plain blank

/-- A line that is not too long is filled with blanks up to the column. -/
theorem width_append_blanks {line : Text} (written : ∀ c ∈ line, allowed c) {start : Nat}
    (free : line.width ≤ start) :
    (∀ c ∈ line ++ blanks (start - line.width), allowed c) ∧
      Text.width (line ++ blanks (start - line.width)) = start := by
  have filling := allowed_blanks blank (start - line.width)
  refine ⟨List.forall_mem_append.2 ⟨written, filling⟩, ?_⟩
  rw [plain.width_append written filling, width_blanks]
  omega

/-- Cells in consecutive columns end where the next column starts at the latest. -/
theorem width_consecutive_le {box : CompletionBox} (several : 1 < box.columns)
    {cells : List BoxCell} (bare : ∀ cell ∈ cells,
      cell.description? = none ∧ cell.label.width < box.itemWidth)
    (labels : ∀ cell ∈ cells, ∀ c ∈ cell.label, allowed c)
    (columns : cells.map BoxCell.column = List.range cells.length) :
    let line := cells.foldl (addCell box) []
    (∀ c ∈ line, allowed c) ∧ Text.width line ≤ cells.length * box.itemWidth := by
  induction cells using List.reverseRecOn with
  | nil => exact ⟨fun c member => absurd member List.not_mem_nil, Nat.zero_le _⟩
  | append_singleton before last inductionHypothesis =>
      obtain ⟨earlyBare, lateBare⟩ := List.forall_mem_append.1 bare
      obtain ⟨earlyLabels, lateLabels⟩ := List.forall_mem_append.1 labels
      obtain ⟨undescribed, narrow⟩ := lateBare last (List.mem_singleton.2 rfl)
      have label := lateLabels last (List.mem_singleton.2 rfl)
      rw [List.map_append, List.length_append, List.length_singleton, List.range_succ] at columns
      obtain ⟨consecutive, place⟩ := List.append_inj' columns rfl
      obtain ⟨written, free⟩ := inductionHypothesis earlyBare earlyLabels consecutive
      have stands : last.column = before.length := List.singleton_inj.1 place
      rw [← stands] at free
      obtain ⟨padded, start⟩ := width_append_blanks plain blank written free
      simp only [List.foldl_append, List.foldl_cons, List.foldl_nil,
        addCell_of_several several undescribed narrow]
      refine ⟨List.forall_mem_append.2 ⟨padded, label⟩, ?_⟩
      rw [plain.width_append padded label, start, List.length_append, List.length_singleton,
        Nat.succ_mul, stands]
      omega

end Alphabet

/-- The labels of the cells are those of candidates. -/
theorem allowed_label {candidates : List Candidate} {allowed : Char → Prop}
    (labels : ∀ candidate ∈ candidates, ∀ c ∈ candidate.label, allowed c) {selected? : Option Nat}
    {width height minimum : Nat} {cell : BoxCell} (member : cell ∈
      (CompletionBox.arrange candidates selected? width height minimum).cells) :
    ∀ c ∈ cell.label, allowed c := by
  obtain ⟨candidate, offered, label, _⟩ := CompletionBox.exists_candidate_of_mem_cells member
  rw [label]
  exact labels candidate offered

/-- What stands before a cell of a row leaves its column free. -/
theorem width_line_le {candidates : List Candidate} {selected? : Option Nat}
    {width height minimum row : Nat} (filled : candidates ≠ []) (room : 0 < width)
    (high : 0 < height) (word : width ≤ 65535) (small : height ≤ 65535) (below : row < height)
    {allowed : Char → Prop} (plain : Text.PlainOver allowed) (blank : allowed ' ')
    (labels : ∀ candidate ∈ candidates, ∀ c ∈ candidate.label, allowed c)
    {front behind : List BoxCell} {cell : BoxCell} :
    let box := CompletionBox.arrange candidates selected? width height minimum
    let line := front.foldl (addCell box) []
    (box.cells.filter fun cell => cell.row = row) = front ++ cell :: behind →
      (∀ c ∈ line, allowed c) ∧ Text.width line ≤ cell.column * box.itemWidth := by
  intro box line split
  have held : ∀ other ∈ front ++ cell :: behind, other ∈ box.cells := by
    rw [← split]
    exact fun other member => (List.mem_filter.1 member).1
  have placed := @CompletionBox.columnMajor_arrange candidates width height minimum filled room high
    selected? small word
  obtain ⟨consecutive, place⟩ := placed.column_of_split below split
  rw [place]
  by_cases several : 1 < box.columns
  · have among : ∀ other ∈ front, other ∈ box.cells := fun other member =>
      held other (List.mem_append_left _ member)
    exact width_consecutive_le plain blank several
      (fun other member => CompletionBox.several_arrange filled room high selected? word several
        other (among other member))
      (fun other member => allowed_label labels (among other member)) consecutive
  · -- in a single column no other cell has the same row
    have inside : cell.column < box.columns :=
      ((CompletionBox.wellPlaced_arrange filled room high selected? small word).inside cell
        (held cell (List.mem_append_right _ List.mem_cons_self))).1
    have first : front.length = 0 := by omega
    rw [List.length_eq_zero_iff] at first
    simp only [line, first]
    exact ⟨fun c member => absurd member List.not_mem_nil, Nat.zero_le _⟩

/-- The help above the candidates, if there is any. -/
def helpRows (editor : Editor) : List BoxRow :=
  if editor.completion.help = [] then []
  else [⟨editor.completion.help.truncate editor.size.columns, .dimmed, none⟩]

/-- The box that the candidates are arranged in. -/
def candidateBox (editor : Editor) : CompletionBox :=
  CompletionBox.arrange editor.completion.candidates editor.completion.selected?
    editor.size.columns (editor.options.completionHeight - (helpRows editor).length)
    editor.options.itemWidth

theorem completionRows_of_boxed {editor : Editor} (boxed : editor.completion.isBoxed = true) :
    completionRows editor = helpRows editor ++ (List.range (candidateBox editor).rows).map
      (boxRow (candidateBox editor) editor.size.columns) := by
  rw [completionRows, boxed]
  rfl

end Compose

/-- The texts that the box shows for the candidate are solid. -/
structure Candidate.Solid (candidate : Candidate) : Prop where
  label : candidate.label.Solid
  description : ∀ description ∈ candidate.description?, Text.Solid description

theorem Candidate.Solid.cell {candidate : Candidate} (solid : candidate.Solid) {cell : BoxCell}
    (label : cell.label = candidate.label)
    (description : cell.description? = candidate.description?.bind Candidate.presence) :
    Compose.SolidCell cell := by
  refine ⟨label ▸ solid.label, fun text shown => ?_⟩
  rw [description, Option.mem_def, Option.bind_eq_some_iff] at shown
  obtain ⟨full, described, present⟩ := shown
  obtain rfl : full = text := by
    by_cases empty : full = [] <;> simp_all [Candidate.presence]
  exact solid.description full described

end Promptline
