/-
This file writes the rows of the two boxes with words that overflow. As long as the texts fit into
the memory, no step fails.
-/

import Mathlib.Algebra.Order.BigOperators.Group.List
import Mathlib.Algebra.Order.Group.Nat
import Promptline.Proofs.Screen.BoxRow
import Promptline.Proofs.Screen.Checked.Box

namespace Promptline

namespace BoxCell

/-- The characters that a cell shows at most. -/
def weight (cell : BoxCell) : Nat := cell.label.length + (cell.description?.getD []).length

end BoxCell

namespace Compose

open Checked

def labelRoom? (box : CompletionBox) : Option Nat :=
  if 1 < box.columns then difference? box.itemWidth 1 else some box.itemWidth

def cutLabel? (box : CompletionBox) (cell : BoxCell) : Option Text := do
  let room ← labelRoom? box
  cell.label.truncate? (max room 1)

def describe? (box : CompletionBox) (cell : BoxCell) (label : Text) : Option Text :=
  match cell.description? with
  | some description => do
      let width ← label.width?
      some (blanks (box.itemWidth - width) ++ description)
  | none => some []

def addCell? (box : CompletionBox) (line : Text) (cell : BoxCell) : Option Text := do
  let start ← product? long cell.column box.itemWidth
  let used ← line.width?
  let label ← cutLabel? box cell
  let description ← describe? box cell label
  some (line ++ blanks (start - used) ++ label ++ description)

def highlightOf? (box : CompletionBox) (line : Text) (cell : BoxCell) :
    Option (Option (Nat × Nat)) :=
  if cell.selected then do
    let start ← product? long cell.column box.itemWidth
    let width ← line.width?
    some (some (screenWord start, screenWord (max (width - start) 1)))
  else some none

def addCells? (box : CompletionBox) (line : Text) (highlight? : Option (Nat × Nat)) :
    List BoxCell → Option (Text × Option (Nat × Nat))
  | [] => some (line, highlight?)
  | cell :: rest => do
      let line ← addCell? box line cell
      let found? ← highlightOf? box line cell
      addCells? box line (found?.or highlight?) rest

def boxRow? (box : CompletionBox) (columns row : Nat) : Option BoxRow := do
  let (line, highlight?) ← addCells? box [] none (box.cells.filter fun cell => cell.row = row)
  let text ← line.truncate? columns
  some ⟨text, .none, highlight?⟩

def boxRows? (box : CompletionBox) (columns : Nat) : List Nat → Option (List BoxRow)
  | [] => some []
  | row :: rest => do
      let first ← boxRow? box columns row
      let others ← boxRows? box columns rest
      some (first :: others)

def helpRows? (editor : Editor) : Option (List BoxRow) :=
  if editor.completion.help = [] then some []
  else do
    let text ← editor.completion.help.truncate? editor.size.columns
    some [⟨text, .dimmed, none⟩]

def completionRows? (editor : Editor) : Option (List BoxRow) :=
  let completion := editor.completion
  let columns := editor.size.columns
  if !completion.isBoxed then some []
  else do
    let help ← helpRows? editor
    let box ← CompletionBox.arrange? completion.candidates completion.selected? columns
      (editor.options.completionHeight - help.length) editor.options.itemWidth
    let rows ← boxRows? box columns (List.range box.rows)
    some (help ++ rows)

/-- The cells of a box that is not wider than a word, with texts that fit into the memory. -/
structure Fits (box : CompletionBox) (cells : List BoxCell) : Prop where
  narrow : box.itemWidth < short
  placed : ∀ cell ∈ cells, 0 < box.itemWidth ∧ cell.column * box.itemWidth < short
  light : (cells.map BoxCell.weight).sum ≤ memory

theorem Fits.of_cons {box : CompletionBox} {cell : BoxCell} {cells : List BoxCell}
    (fits : Fits box (cell :: cells)) :
    0 < box.itemWidth ∧ cell.column * box.itemWidth < short ∧ cell.weight ≤ memory ∧
      Fits box cells := by
  obtain ⟨narrow, placed, light⟩ := fits
  obtain ⟨first, others⟩ := List.forall_mem_cons.1 placed
  rw [List.map_cons, List.sum_cons] at light
  exact ⟨first.1, first.2, by omega, narrow, others, by omega⟩

theorem cutLabel?_eq {box : CompletionBox} (apart : 0 < box.itemWidth)
    (narrow : box.itemWidth < short) {cell : BoxCell} (light : cell.weight ≤ memory) :
    cutLabel? box cell = some (cutLabel box cell) := by
  have inside : 2 * cell.label.length < long := by
    simp only [BoxCell.weight, memory, long] at light ⊢
    omega
  have room : labelRoom? box =
      some (if 1 < box.columns then box.itemWidth - 1 else box.itemWidth) := by
    rw [labelRoom?, difference?_of_le apart]
    split <;> rfl
  have small : max (if 1 < box.columns then box.itemWidth - 1 else box.itemWidth) 1 < short := by
    split <;> omega
  rw [cutLabel?, room]
  exact Text.truncate?_of_lt small inside

theorem length_cutLabel_le (box : CompletionBox) (cell : BoxCell) :
    (cutLabel box cell).length ≤ cell.label.length + 1 := Text.length_truncate_le _ _

theorem describe?_eq (box : CompletionBox) {cell : BoxCell} (light : cell.weight ≤ memory) :
    describe? box cell (cutLabel box cell) = some (describe box cell) := by
  have short := length_cutLabel_le box cell
  have inside : 2 * (cutLabel box cell).length < long := by
    simp only [BoxCell.weight, memory, long] at light ⊢
    omega
  rw [describe?, describe, Text.width?_of_lt inside]
  cases cell.description? <;> rfl

theorem addCell?_eq {box : CompletionBox} (apart : 0 < box.itemWidth)
    (narrow : box.itemWidth < short) {cell : BoxCell}
    (start : cell.column * box.itemWidth < short) (light : cell.weight ≤ memory) {line : Text}
    (inside : 2 * line.length < long) :
    addCell? box line cell = some (addCell box line cell) := by
  have started : product? long cell.column box.itemWidth = some (cell.column * box.itemWidth) :=
    product?_of_lt (Nat.lt_trans start (by decide))
  simp only [addCell?, started, Text.width?_of_lt inside, cutLabel?_eq apart narrow light,
    describe?_eq box light, Option.bind_eq_bind, Option.bind_some, addCell]

theorem length_addCell_le {box : CompletionBox} (narrow : box.itemWidth < short) {cell : BoxCell}
    (start : cell.column * box.itemWidth < short) (line : Text) :
    (addCell box line cell).length ≤ line.length + cell.weight + 2 * short := by
  have label := length_cutLabel_le box cell
  have described : (describe box cell).length ≤
      box.itemWidth + (cell.description?.getD []).length := by
    rw [describe]
    cases cell.description? with
    | none => exact Nat.zero_le _
    | some description => simp [blanks]
  simp only [addCell, List.length_append, blanks, List.length_replicate, BoxCell.weight]
  omega

theorem highlightOf?_eq {box : CompletionBox} {cell : BoxCell}
    (start : cell.column * box.itemWidth < short) {line : Text}
    (inside : 2 * line.length < long) :
    highlightOf? box line cell = some (highlightOf box line cell) := by
  have started : product? long cell.column box.itemWidth = some (cell.column * box.itemWidth) :=
    product?_of_lt (Nat.lt_trans start (by decide))
  rw [highlightOf?, highlightOf, started, Text.width?_of_lt inside]
  split <;> rfl

theorem addCells?_eq {box : CompletionBox} {cells : List BoxCell} (fits : Fits box cells)
    {line : Text}
    (inside :
      2 * (line.length + (cells.map BoxCell.weight).sum + cells.length * (2 * short)) < long)
    (highlight? : Option (Nat × Nat)) :
    addCells? box line highlight? cells =
        some (cells.foldl (joinCell box) (line, highlight?)) ∧
      (cells.foldl (joinCell box) (line, highlight?)).1.length ≤
        line.length + (cells.map BoxCell.weight).sum + cells.length * (2 * short) := by
  induction cells generalizing line highlight? with
  | nil => exact ⟨rfl, Nat.le_refl _⟩
  | cons cell rest inductionHypothesis =>
      obtain ⟨apart, start, light, others⟩ := fits.of_cons
      have longer := length_addCell_le others.narrow start line
      rw [List.map_cons, List.sum_cons, List.length_cons, Nat.add_mul, Nat.one_mul] at inside ⊢
      have further := @inductionHypothesis others (addCell box line cell) (by omega)
        ((highlightOf box (addCell box line cell) cell).or highlight?)
      simp only [addCells?, addCell?_eq apart others.narrow start light
          (show 2 * line.length < long by omega),
        highlightOf?_eq start (show 2 * (addCell box line cell).length < long by omega),
        Option.bind_eq_bind, Option.bind_some, List.foldl_cons]
      exact ⟨further.1, Nat.le_trans further.2 (by omega)⟩

theorem Fits.of_sublist {box : CompletionBox} {cells others : List BoxCell}
    (fits : Fits box cells) (part : others.Sublist cells) : Fits box others where
  narrow := fits.narrow
  placed cell member := fits.placed cell (part.subset member)
  light := Nat.le_trans ((part.map _).sum_le_sum fun _ _ => Nat.zero_le _) fits.light

/-- More cells than there are on the largest screen do not fill a word. -/
theorem boxRow?_eq {box : CompletionBox} (fits : Fits box box.cells)
    (few : box.cells.length ≤ 65535 * 65535) {columns : Nat} (word : columns < short) (row : Nat) :
    boxRow? box columns row = some (boxRow box columns row) := by
  have part : (box.cells.filter fun cell => cell.row = row).Sublist box.cells :=
    List.filter_sublist
  have rest := fits.of_sublist part
  have light := rest.light
  have count := Nat.mul_le_mul_right (2 * short) (Nat.le_trans part.length_le few)
  simp only [memory, short] at light count
  obtain ⟨joined, reached⟩ := @addCells?_eq box _ rest []
    (by simp only [List.length_nil, short, long]; omega) none
  simp only [List.length_nil, short] at reached
  simp only [boxRow?, joined, Option.bind_eq_bind, Option.bind_some]
  rw [Text.truncate?_of_lt word (by simp only [long]; omega)]
  rfl

theorem boxRows?_eq {box : CompletionBox} (fits : Fits box box.cells)
    (few : box.cells.length ≤ 65535 * 65535) {columns : Nat} (word : columns < short)
    (rows : List Nat) : boxRows? box columns rows = some (rows.map (boxRow box columns)) := by
  induction rows with
  | nil => rfl
  | cons row rest inductionHypothesis =>
      rw [boxRows?, boxRow?_eq fits few word, inductionHypothesis]
      rfl

end Compose

namespace CompletionBox

open Checked

theorem weight_cellOf (height : Nat) (selected? : Option Nat) (index place : Nat)
    (candidate : Candidate) :
    (cellOf height selected? index place candidate).weight = candidate.weight := by
  have shown : (candidate.description?.bind Candidate.presence).getD [] =
      candidate.description?.getD [] := by
    cases candidate.description? with
    | none => rfl
    | some description =>
        by_cases empty : description = []
        · rw [empty]
          rfl
        · simp [Candidate.presence, empty]
  simp only [BoxCell.weight, Candidate.weight, cellOf, shown]

theorem weights_arrange (candidates : List Candidate) (height first size : Nat)
    (selected? : Option Nat) :
    ((((candidates.drop first).take size).mapIdx fun place candidate =>
        cellOf height selected? (first + place) place candidate).map BoxCell.weight).sum ≤
      (candidates.map Candidate.weight).sum := by
  have part : ((candidates.drop first).take size).Sublist candidates :=
    (List.take_sublist _ _).trans (List.drop_sublist _ _)
  have alike : (((candidates.drop first).take size).mapIdx fun place candidate =>
        cellOf height selected? (first + place) place candidate).map BoxCell.weight =
      ((candidates.drop first).take size).map Candidate.weight := by
    apply List.ext_getElem?
    intro place
    simp only [List.getElem?_map, List.getElem?_mapIdx, Option.map_map, Function.comp_def,
      weight_cellOf]
  rw [alike]
  exact (part.map _).sum_le_sum fun _ _ => Nat.zero_le _

/-- The cells of a page are no more than the screen has, and each starts left of the right edge. -/
theorem fits_arrange {candidates : List Candidate} {width height : Nat} (columns : width < short)
    (rows : height < short) (light : (candidates.map Candidate.weight).sum ≤ memory)
    (selected? : Option Nat) (minimum : Nat) :
    let box := arrange candidates selected? width height minimum
    Compose.Fits box box.cells ∧ box.cells.length ≤ 65535 * 65535 := by
  simp only
  by_cases empty : candidates = [] ∨ width = 0 ∨ height = 0
  · rw [arrange, if_pos empty]
    exact ⟨⟨by decide, fun cell member => absurd member List.not_mem_nil, by decide⟩, by decide⟩
  · rw [not_or, not_or] at empty
    obtain ⟨filled, room, high⟩ := empty
    have room := Nat.pos_of_ne_zero room
    have high := Nat.pos_of_ne_zero high
    have bounds := itemWidthOf_bounds candidates minimum room (Nat.le_of_lt_succ columns)
    have small := pageSize_le columns rows candidates (itemWidthOf candidates width minimum)
    rw [arrange_of_room filled room high]
    refine ⟨⟨by simp only; omega, fun cell member => ⟨bounds.1, ?_⟩,
      Nat.le_trans (weights_arrange ..) light⟩, ?_⟩
    · obtain ⟨place, inside, rfl⟩ := List.mem_mapIdx.1 member
      have start := @start_lt candidates width height _ place room
        (Nat.lt_of_lt_of_le inside (List.length_take_le ..))
      refine Nat.lt_trans (Nat.lt_of_le_of_lt ?_ start) columns
      exact Nat.mul_le_mul_right _ (Nat.mod_le _ _)
    · rw [List.length_mapIdx, List.length_take]
      omega

end CompletionBox

namespace Editor

open Checked

/-- The sizes that a session is set up with are words of 16 bits. -/
structure InWords (editor : Editor) : Prop where
  columns : editor.size.columns < short
  rows : editor.size.rows < short
  completionHeight : editor.options.completionHeight < short

/-- The texts and lists that are measured fit into the memory. -/
structure InMemory (editor : Editor) : Prop where
  prompt : editor.options.prompt.length ≤ memory
  line : editor.buffer.shown.length ≤ memory
  suffix : ∀ tail ∈ editor.suffix?, tail.2.length ≤ memory
  help : editor.completion.help.length ≤ memory
  candidates : editor.completion.candidates.length ≤ memory
  weights : (editor.completion.candidates.map Candidate.weight).sum ≤ memory
  search : editor.search.prompt.length ≤ memory
  matched : editor.search.matched.length ≤ memory

end Editor

namespace Compose

open Checked

theorem helpRows?_eq {editor : Editor} (words : editor.InWords) (inMemory : editor.InMemory) :
    helpRows? editor = some (helpRows editor) := by
  have inside : 2 * editor.completion.help.length < long :=
    Nat.lt_of_le_of_lt (Nat.mul_le_mul_left 2 inMemory.help) (by decide)
  rw [helpRows?, helpRows, Text.truncate?_of_lt words.columns inside]
  split <;> rfl

theorem completionRows?_eq {editor : Editor} (words : editor.InWords)
    (inMemory : editor.InMemory) : completionRows? editor = some (completionRows editor) := by
  have light : ∀ candidate ∈ editor.completion.candidates, candidate.label.length ≤ memory := by
    intro candidate member
    have part := List.le_sum_of_mem (List.mem_map_of_mem (f := Candidate.weight) member)
    exact Nat.le_trans (Nat.le_add_right ..) (Nat.le_trans part inMemory.weights)
  have rows := Nat.lt_of_le_of_lt (Nat.sub_le _ (helpRows editor).length) words.completionHeight
  have arranged := CompletionBox.arrange?_eq words.columns rows inMemory.candidates light
    editor.completion.selected? editor.options.itemWidth
  obtain ⟨fits, few⟩ := CompletionBox.fits_arrange words.columns rows inMemory.weights
    editor.completion.selected? editor.options.itemWidth
  by_cases boxed : editor.completion.isBoxed = true
  · rw [completionRows_of_boxed boxed]
    simp only [completionRows?, boxed, Bool.not_true, Bool.false_eq_true, if_false,
      helpRows?_eq words inMemory, arranged, boxRows?_eq fits few words.columns,
      Option.bind_eq_bind, Option.bind_some]
    rfl
  · simp [completionRows?, completionRows, boxed]

end Compose

namespace Window

open Checked

def around? (total selected height : Nat) : Option Window :=
  if height = 0 ∨ total = 0 then some ⟨0, 0⟩
  else if total ≤ height then some ⟨0, total⟩
  else do
    let last ← difference? total 1
    let room ← difference? total height
    let start := min (min selected last - height / 2) room
    let stop ← sum? long start height
    some ⟨start, stop⟩

theorem around?_eq {total : Nat} (inside : total < long) (selected height : Nat) :
    around? total selected height = some (around total selected height) := by
  rw [around?, around]
  split
  · rfl
  · split
    · rfl
    next short =>
      rw [difference?_of_le (by omega), difference?_of_le (by omega)]
      simp only [Option.bind_eq_bind, Option.bind_some]
      rw [sum?_of_lt (by omega)]
      rfl

end Window

namespace HistorySearch

open Checked

/-- The rows of the matches at the places from one on. A match without an item has no row. -/
def rowsFrom? (search : HistorySearch) (start index : Nat) :
    List HistoryMatch → Option (List SearchRow)
  | [] => some []
  | found :: rest => do
      let place ← sum? long start index
      let others ← rowsFrom? search start (index + 1) rest
      some ((search.row? place found).toList ++ others)

def rows? (search : HistorySearch) (height : Nat) : Option (List SearchRow) :=
  if search.active then do
    let window ← Window.around? search.matched.length search.selected height
    let shown ← slice? search.matched window.start window.stop
    rowsFrom? search window.start 0 shown
  else some []

theorem rowsFrom?_eq (search : HistorySearch) {start index : Nat} {shown : List HistoryMatch}
    (inside : start + index + shown.length < long) :
    rowsFrom? search start index shown =
      some ((shown.mapIdx fun place found => search.row? (start + (index + place)) found).filterMap
        id) := by
  induction shown generalizing index with
  | nil => rfl
  | cons found rest inductionHypothesis =>
      rw [List.length_cons] at inside
      have further := @inductionHypothesis (index + 1) (by omega)
      rw [rowsFrom?, sum?_of_lt (by omega), further, List.mapIdx_cons, List.filterMap_cons]
      simp only [Option.bind_eq_bind, Option.bind_some, Nat.add_zero, Nat.add_assoc,
        Nat.add_comm 1, id]
      cases search.row? (start + index) found <;> rfl

theorem rows?_eq {search : HistorySearch} (inside : search.matched.length < long) (height : Nat) :
    search.rows? height = some (search.box height).rows := by
  rw [rows?, box]
  split
  · have ordered := Window.around_start_le_stop search.matched.length search.selected height
    have reach := Window.around_stop_le search.matched.length search.selected height
    have window : search.window height =
      Window.around search.matched.length search.selected height := rfl
    rw [← window] at ordered reach
    rw [Window.around?_eq inside, ← window]
    simp only [Option.bind_eq_bind, Option.bind_some, slice?_of_le ordered reach]
    rw [rowsFrom?_eq search (by rw [List.length_drop, List.length_take]; omega)]
    simp only [Nat.zero_add]
  · rfl

end HistorySearch

end Promptline
