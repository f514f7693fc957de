/-
This file describes the pages of the completion box. Together they hold every candidate once, the
candidates of a page stand apart, and the selected one is marked alone on the page that is shown.
-/

import Mathlib.Data.List.Induction
import Mathlib.Data.List.Nodup
import Mathlib.Data.Nat.ModEq
import Promptline.Screen.CompletionBox

namespace Promptline

/-- Of a list in which one place alone has a property, that place is left. -/
theorem filter_eq_singleton {α : Type} {list : List α} {has : α → Bool} {place : Nat} {chosen : α}
    (there : list[place]? = some chosen)
    (alone : ∀ other one, list[other]? = some one → (has one = true ↔ other = place)) :
    list.filter has = [chosen] := by
  obtain ⟨inside, rfl⟩ := List.getElem?_eq_some_iff.1 there
  have before : (list.take place).filter has = [] := by
    apply List.filter_eq_nil_iff.2
    intro one member
    obtain ⟨other, earlier, rfl⟩ := List.mem_take_iff_getElem.1 member
    rw [alone other _ (List.getElem?_eq_getElem (by omega))]
    omega
  have behind : (list.drop (place + 1)).filter has = [] := by
    apply List.filter_eq_nil_iff.2
    intro one member
    obtain ⟨other, later, rfl⟩ := List.mem_drop_iff_getElem.1 member
    rw [alone (place + 1 + other) _ (List.getElem?_eq_getElem (by omega))]
    omega
  have marked : has list[place] = true := (alone place _ there).2 rfl
  calc
    list.filter has = (list.take place).filter has ++ (list.drop place).filter has := by
      rw [← List.filter_append, List.take_append_drop]
    _ = [list[place]] := by
      rw [before, List.drop_eq_getElem_cons inside, List.filter_cons_of_pos marked, behind,
        List.nil_append]

namespace CompletionBox

section Selected

variable {candidates : List Candidate} {selected width height minimum : Nat}

/-- An item takes at least one column and at most all of them. -/
theorem itemWidthOf_bounds (candidates : List Candidate) (minimum : Nat) (room : 0 < width)
    (word : width ≤ 65535) :
    0 < itemWidthOf candidates width minimum ∧ itemWidthOf candidates width minimum ≤ width := by
  simp only [itemWidthOf, screenWord]
  rw [Nat.mod_eq_of_lt (by omega)]
  omega

theorem columnsOf_pos (candidates : List Candidate) (width height itemWidth : Nat) :
    0 < columnsOf candidates width height itemWidth := by
  simp only [columnsOf]
  split <;> omega

theorem presence_of_not_hasDescription {candidate : Candidate}
    (bare : candidate.hasDescription = false) :
    candidate.description?.bind Candidate.presence = none := by
  cases described : candidate.description? with
  | none => rfl
  | some description =>
      have empty : description = [] := by
        simpa [Candidate.hasDescription, described] using bare
      rw [empty]
      rfl

/-- Several columns fit into the width, and then no candidate has a description. -/
theorem columnsOf_several {itemWidth : Nat}
    (several : 1 < columnsOf candidates width height itemWidth) :
    columnsOf candidates width height itemWidth * itemWidth ≤ width ∧
      ∀ candidate ∈ candidates, candidate.hasDescription = false := by
  simp only [columnsOf] at several ⊢
  split at several
  · omega
  next listed =>
    simp only [Bool.or_eq_true, List.any_eq_true, decide_eq_true_eq, not_or, not_exists, not_and,
      Bool.not_eq_true] at listed
    have all : max (width / itemWidth) 1 = width / itemWidth := by omega
    rw [if_neg (by simpa using listed), all]
    exact ⟨Nat.div_mul_le_self width itemWidth, listed.1⟩

/-- The widest label is at least as wide as any. -/
theorem le_widest (candidates : List Candidate) (least : Nat) :
    let widest :=
      candidates.foldl (fun widest candidate => max widest candidate.label.width) least
    least ≤ widest ∧ ∀ candidate ∈ candidates, candidate.label.width ≤ widest := by
  induction candidates generalizing least with
  | nil => exact ⟨Nat.le_refl least, fun candidate member => absurd member List.not_mem_nil⟩
  | cons first rest inductionHypothesis =>
      obtain ⟨grown, others⟩ := inductionHypothesis (max least first.label.width)
      exact ⟨Nat.le_trans (Nat.le_max_left ..) grown,
        List.forall_mem_cons.2 ⟨Nat.le_trans (Nat.le_max_right ..) grown, others⟩⟩

/-- In several columns every label leaves room for a blank behind it. -/
theorem width_label_lt {candidate : Candidate} (member : candidate ∈ candidates)
    (room : 0 < width) (word : width ≤ 65535)
    (several : 1 < columnsOf candidates width height (itemWidthOf candidates width minimum)) :
    candidate.label.width < itemWidthOf candidates width minimum := by
  have wide := (le_widest candidates 0).2 candidate member
  have fits := Nat.le_trans (Nat.mul_le_mul_right _ several) (columnsOf_several several).1
  simp only [itemWidthOf, screenWord] at fits ⊢
  rw [Nat.mod_eq_of_lt (by omega)] at fits ⊢
  omega

theorem columnsOf_le (candidates : List Candidate) (width height itemWidth : Nat) :
    columnsOf candidates width height itemWidth ≤ max width 1 := by
  have less := Nat.div_le_self width itemWidth
  simp only [columnsOf]
  split <;> omega

/-- Every item of a page starts left of the right edge. -/
theorem start_lt {itemWidth place : Nat} (room : 0 < width)
    (among : place < height * columnsOf candidates width height itemWidth) :
    place / height * itemWidth < width := by
  have column : place / height < columnsOf candidates width height itemWidth :=
    Nat.div_lt_of_lt_mul among
  have positive := columnsOf_pos candidates width height itemWidth
  by_cases several : 1 < columnsOf candidates width height itemWidth
  · have wide := (columnsOf_several several).1
    have next := Nat.mul_le_mul_right itemWidth (Nat.succ_le_of_lt column)
    have apart : 0 < itemWidth := Nat.pos_of_ne_zero fun none => by
      rw [columnsOf, none, Nat.div_zero] at several
      split at several <;> omega
    rw [Nat.succ_mul] at next
    omega
  · have first : place / height = 0 := Nat.lt_one_iff.1 (by omega)
    rw [first, Nat.zero_mul]
    exact room

/-- A cell shows a candidate. -/
theorem exists_candidate_of_mem_cells {selected? : Option Nat} {cell : BoxCell}
    (member : cell ∈ (arrange candidates selected? width height minimum).cells) :
    ∃ candidate ∈ candidates, cell.label = candidate.label ∧
      cell.description? = candidate.description?.bind Candidate.presence := by
  simp only [arrange] at member
  split at member
  · exact absurd member List.not_mem_nil
  · obtain ⟨place, inside, rfl⟩ := List.mem_mapIdx.1 member
    exact ⟨_, List.drop_subset _ _ (List.take_subset _ _ (List.getElem_mem inside)), rfl, rfl⟩

/-- A page has no more rows than there is room for. -/
theorem rows_arrange_le (candidates : List Candidate) (selected? : Option Nat)
    (width height minimum : Nat) :
    (arrange candidates selected? width height minimum).rows ≤ height := by
  simp only [arrange]
  split
  · exact Nat.zero_le height
  · exact Nat.le_trans (Nat.mod_le _ _) (Nat.min_le_right _ _)

/-- The page with the selected candidate, and the first one if there is none. -/
def pageOf (total size : Nat) : Option Nat → Nat
  | none => 0
  | some selected => min selected (total - 1) / size

/-- A page starts at a candidate. -/
theorem pageOf_mul_lt {total : Nat} (filled : 0 < total) (size : Nat) (selected? : Option Nat) :
    pageOf total size selected? * size < total := by
  cases selected? with
  | none => rwa [pageOf, Nat.zero_mul]
  | some selected =>
      have less := Nat.div_mul_le_self (min selected (total - 1)) size
      exact Nat.lt_of_le_of_lt less (by omega)

theorem arrange_of_room (filled : candidates ≠ []) (room : 0 < width) (high : 0 < height)
    (selected? : Option Nat) :
    arrange candidates selected? width height minimum =
      let itemWidth := itemWidthOf candidates width minimum
      let columns := columnsOf candidates width height itemWidth
      let size := height * columns
      let page := pageOf candidates.length size selected?
      let first := page * size
      let shown := (candidates.drop first).take size
      { itemWidth, columns, rows := screenWord (min shown.length height), page,
        pageCount := (candidates.length + size - 1) / size,
        cells := shown.mapIdx fun place candidate =>
          cellOf height selected? (first + place) place candidate } := by
  rw [arrange, if_neg (by simp only [filled, false_or]; omega)]
  cases selected? <;> rfl

/-- The arrangement around a selected candidate. -/
theorem arrange_of_selected (known : selected < candidates.length) (room : 0 < width)
    (high : 0 < height) :
    arrange candidates (some selected) width height minimum =
      let itemWidth := itemWidthOf candidates width minimum
      let columns := columnsOf candidates width height itemWidth
      let size := height * columns
      let first := selected / size * size
      let shown := (candidates.drop first).take size
      { itemWidth, columns, rows := screenWord (min shown.length height),
        page := selected / size, pageCount := (candidates.length + size - 1) / size,
        cells := shown.mapIdx fun place candidate =>
          cellOf height (some selected) (first + place) place candidate } := by
  have filled : candidates ≠ [] := List.ne_nil_of_length_pos (by omega)
  have inside : min selected (candidates.length - 1) = selected := by omega
  simp only [arrange_of_room filled room high, pageOf, inside]

theorem row_cellOf (word : height ≤ 65535) (high : 0 < height) (selected? : Option Nat)
    (index place : Nat) (candidate : Candidate) :
    (cellOf height selected? index place candidate).row = place % height := by
  have small := Nat.mod_lt place high
  exact Nat.mod_eq_of_lt (by omega)

end Selected

/-- The cells stand below each other, and a new column begins at the given height. -/
def ColumnMajor (height : Nat) (cells : List BoxCell) : Prop :=
  ∀ (place : Nat) (cell : BoxCell), cells[place]? = some cell →
    cell.column = place / height ∧ cell.row = place % height

/-- No two cells share a position. -/
theorem ColumnMajor.nodup {height : Nat} {cells : List BoxCell}
    (placed : ColumnMajor height cells) :
    (cells.map fun cell => (cell.column, cell.row)).Nodup := by
  rw [List.nodup_iff_getElem?_ne_getElem?]
  intro first second before inside same
  rw [List.length_map] at inside
  rw [List.getElem?_map, List.getElem?_map, List.getElem?_eq_getElem inside,
    List.getElem?_eq_getElem (Nat.lt_trans before inside)] at same
  obtain ⟨column, row⟩ := Prod.mk.inj (Option.some.inj same)
  obtain ⟨firstColumn, firstRow⟩ := placed first _ (List.getElem?_eq_getElem _)
  obtain ⟨secondColumn, secondRow⟩ := placed second _ (List.getElem?_eq_getElem inside)
  have places := Nat.div_add_mod' first height
  rw [← firstColumn, ← firstRow, column, row, secondColumn, secondRow, Nat.div_add_mod'] at places
  omega

/-- The number of rounds grows by one when a row is reached again. -/
theorem dvd_row_iff {height row count : Nat} (below : row < height) :
    height ∣ count + (height - 1 - row) + 1 ↔ count % height = row := by
  have shift : count + (height - 1 - row) + 1 = count + height - row := by omega
  rw [shift, ← Nat.modEq_iff_dvd' (by omega), Nat.ModEq, Nat.add_mod_right,
    Nat.mod_eq_of_lt below, eq_comm]

/-- A row starts in the first column and leaves none out. -/
theorem ColumnMajor.columns_row {height row : Nat} {cells : List BoxCell}
    (placed : ColumnMajor height cells) (below : row < height) :
    (cells.filter fun cell => cell.row = row).map BoxCell.column =
      List.range ((cells.length + (height - 1 - row)) / height) := by
  induction cells using List.reverseRecOn with
  | nil => rw [List.length_nil, Nat.div_eq_of_lt (by omega)]; rfl
  | append_singleton before last inductionHypothesis =>
      have earlier : ColumnMajor height before := fun place cell found =>
        placed place cell (by rw [List.getElem?_append_left
          (List.getElem?_eq_some_iff.1 found).1, found])
      obtain ⟨column, stands⟩ := placed before.length last List.getElem?_concat_length
      rw [List.filter_append, List.map_append, inductionHypothesis earlier, List.length_append,
        List.length_singleton, Nat.add_right_comm, Nat.succ_div]
      by_cases same : before.length % height = row
      · have place := Nat.div_add_mod' before.length height
        have rounds : (before.length + (height - 1 - row)) / height = before.length / height := by
          rw [show before.length + (height - 1 - row) =
              height - 1 + before.length / height * height by omega,
            Nat.add_mul_div_right _ _ (by omega), Nat.div_eq_of_lt (by omega), Nat.zero_add]
        rw [if_pos ((dvd_row_iff below).2 same), List.range_succ, rounds, ← column]
        simp [stands, same]
      · rw [if_neg ((dvd_row_iff below).not.2 same)]
        simp [stands, same]

/-- In a row as many cells stand before a cell as columns do. -/
theorem ColumnMajor.column_of_split {height row : Nat} {cells front behind : List BoxCell}
    {cell : BoxCell} (placed : ColumnMajor height cells) (below : row < height)
    (split : (cells.filter fun cell => cell.row = row) = front ++ cell :: behind) :
    front.map BoxCell.column = List.range front.length ∧ cell.column = front.length := by
  have columns := placed.columns_row below
  rw [split, List.map_append, List.map_cons] at columns
  have counted := congrArg List.length columns
  simp only [List.length_append, List.length_map, List.length_cons, List.length_range] at counted
  constructor
  · have before := congrArg (List.take front.length) columns
    rwa [List.take_left' (List.length_map _), List.take_range, Nat.min_eq_left (by omega)] at before
  · have here := congrArg (fun columns => columns[front.length]?) columns
    simpa [List.getElem?_append_right, List.getElem?_range
      (show front.length < (cells.length + (height - 1 - row)) / height by omega)] using here

/-- The box lies within its bounds, its cells stand apart, and each shows its candidate. -/
structure WellPlaced (box : CompletionBox) (candidates : List Candidate) (width height : Nat) :
    Prop where
  wide : 0 < box.itemWidth
  fits : box.columns * box.itemWidth ≤ width
  high : box.rows ≤ height
  inside : ∀ cell ∈ box.cells, cell.column < box.columns ∧ cell.row < box.rows
  apart : (box.cells.map fun cell => (cell.column, cell.row)).Nodup
  labelled : ∀ cell ∈ box.cells, candidates[cell.index]?.map Candidate.label = some cell.label

/-- One cell has the number of the candidate, and it alone is marked. -/
def Marks (box : CompletionBox) (selected : Nat) : Prop :=
  ∃ cell, (box.cells.filter fun cell => cell.index = selected) = [cell] ∧
    box.cells.filter BoxCell.selected = [cell]

/-- A list is cut into pages of one size. -/
def pagesOf {α : Type} (size count : Nat) (list : List α) : List (List α) :=
  (List.range count).map fun page => (list.drop (page * size)).take size

theorem flatten_pagesOf {α : Type} (size count : Nat) (list : List α) :
    (pagesOf size count list).flatten = list.take (count * size) := by
  induction count with
  | zero => rw [Nat.zero_mul, List.take_zero]; rfl
  | succ count inductionHypothesis =>
      rw [pagesOf] at inductionHypothesis ⊢
      rw [List.range_succ, List.map_append, List.flatten_append, inductionHypothesis, Nat.succ_mul,
        List.take_add]
      simp

/-- A page is counted if and only if there is something on it. -/
theorem lt_pageCount_iff {total size page : Nat} (sized : 0 < size) :
    page < (total + size - 1) / size ↔ page * size < total := by
  rw [Nat.lt_iff_add_one_le, Nat.le_div_iff_mul_le sized, Nat.succ_mul]
  omega

section Pages

variable {candidates : List Candidate} {width height minimum : Nat} (filled : candidates ≠ [])
  (room : 0 < width) (high : 0 < height) (selected? : Option Nat)

include filled room high

/-- The page of a box continues where the pages before it end. -/
theorem getElem?_cells (place : Nat) :
    let box := arrange candidates selected? width height minimum
    let first := box.page * (height * box.columns)
    box.cells[place]? =
      if place < height * box.columns then
        candidates[first + place]?.map (cellOf height selected? (first + place) place)
      else none := by
  simp only [arrange_of_room filled room high, List.getElem?_mapIdx, List.getElem?_take]
  split
  · rw [List.getElem?_drop]
  · rfl

/-- The numbers of the candidates on a page are cut out of all numbers. -/
theorem indices_arrange :
    let box := arrange candidates selected? width height minimum
    let size := height * box.columns
    box.cells.map BoxCell.index =
      ((List.range candidates.length).drop (box.page * size)).take size := by
  intro box size
  apply List.ext_getElem?
  intro place
  rw [List.getElem?_map, List.getElem?_take, List.getElem?_drop]
  have cell := @getElem?_cells candidates width height minimum filled room high selected? place
  simp only at cell
  rw [cell]
  split
  · by_cases inside : box.page * size + place < candidates.length
    · rw [List.getElem?_range inside, List.getElem?_eq_getElem inside]
      rfl
    · rw [List.getElem?_eq_none (Nat.le_of_not_lt inside),
        List.getElem?_eq_none (by rw [List.length_range]; omega)]
      rfl
  · rfl

omit selected? in
/-- Every page shows the next candidates, and every candidate is on one of them. -/
theorem pages_arrange (minimum : Nat) :
    ∃ pages : List (List Nat), pages.flatten = List.range candidates.length ∧ [] ∉ pages ∧
      (∀ selected?, let box := arrange candidates selected? width height minimum
        box.pageCount = pages.length ∧ pages[box.page]? = some (box.cells.map BoxCell.index)) ∧
      ∀ page < pages.length, ∃ selected < candidates.length,
        (arrange candidates (some selected) width height minimum).page = page := by
  let size := height * columnsOf candidates width height (itemWidthOf candidates width minimum)
  have sized : 0 < size := Nat.mul_pos high (columnsOf_pos ..)
  let count := (candidates.length + size - 1) / size
  have counted : (pagesOf size count (List.range candidates.length)).length = count := by
    rw [pagesOf, List.length_map, List.length_range]
  refine ⟨pagesOf size count (List.range candidates.length), ?_, fun empty => ?_,
    fun selected? => ?_, fun page inside => ?_⟩
  · have all : candidates.length ≤ count * size :=
      Nat.le_of_not_lt fun more => Nat.lt_irrefl _ ((lt_pageCount_iff sized).2 more)
    rw [flatten_pagesOf, List.take_of_length_le (by rwa [List.length_range])]
  · obtain ⟨page, among, same⟩ := List.mem_map.1 empty
    have more := (lt_pageCount_iff sized).1 (List.mem_range.1 among)
    have length := congrArg List.length same
    simp only [List.length_take, List.length_drop, List.length_range, List.length_nil] at length
    omega
  · have indices := @indices_arrange candidates width height minimum filled room high selected?
    have begins := pageOf_mul_lt (List.length_pos_of_ne_nil filled) size selected?
    simp only [arrange_of_room filled room high] at indices ⊢
    refine ⟨counted.symm, ?_⟩
    rw [indices, pagesOf, List.getElem?_map,
      List.getElem?_range ((lt_pageCount_iff sized).2 begins), Option.map_some]
  · rw [counted] at inside
    have known := (lt_pageCount_iff sized).1 inside
    refine ⟨page * size, known, ?_⟩
    rw [arrange_of_selected known room high]
    exact Nat.mul_div_cancel page sized

variable (small : height ≤ 65535)

include small

/-- The place of a cell on its page says in which row it stands, and its number says what it
shows. -/
theorem of_getElem?_cells {place : Nat} {cell : BoxCell} :
    let box := arrange candidates selected? width height minimum
    box.cells[place]? = some cell →
      place < height * box.columns ∧ (cell.row = place % height ∧ cell.row < box.rows) ∧
        cell.index = box.page * (height * box.columns) + place ∧
        candidates[cell.index]?.map Candidate.label = some cell.label ∧
        cell.selected = decide (selected? = some cell.index) := by
  intro box found
  have stands := @getElem?_cells candidates width height minimum filled room high selected? place
  simp only at stands
  have reached := (List.getElem?_eq_some_iff.1 found).1
  rw [stands] at found
  split at found
  next inside =>
    obtain ⟨candidate, held, rfl⟩ := Option.map_eq_some_iff.1 found
    have low := Nat.mod_lt place high
    have less := Nat.mod_le place height
    have row := row_cellOf small high selected? (box.page * (height * box.columns) + place) place
      candidate
    have rows : box.rows = min box.cells.length height := by
      simp only [box, arrange_of_room filled room high, List.length_mapIdx]
      exact Nat.mod_eq_of_lt (by omega)
    refine ⟨inside, ⟨row, by rw [row, rows]; omega⟩, rfl, ?_, rfl⟩
    rw [cellOf, held]
    rfl
  · contradiction

section Selected

variable {selected : Nat} (known : selected < candidates.length)

include known

omit filled small in
/-- The selected candidate stands on its page as far from the first one as in the list. -/
theorem place_of_selected :
    let box := arrange candidates (some selected) width height minimum
    let size := height * box.columns
    selected % size < size ∧ box.page * size + selected % size = selected := by
  simp only [arrange_of_selected known room high]
  exact ⟨Nat.mod_lt _ (Nat.mul_pos high (columnsOf_pos ..)), Nat.div_add_mod' ..⟩

omit small in
theorem getElem?_cells_selected :
    let box := arrange candidates (some selected) width height minimum
    let place := selected % (height * box.columns)
    box.cells[place]? =
      some (cellOf height (some selected) selected place candidates[selected]) := by
  obtain ⟨inside, first⟩ := @place_of_selected candidates width height minimum room high _ known
  have stands := @getElem?_cells candidates width height minimum filled room high (some selected)
  simp only at inside first stands ⊢
  rw [stands, if_pos inside, first, List.getElem?_eq_getElem known]
  rfl

/-- No other cell of the page has the number of the selected candidate or is marked. -/
theorem selected_iff {other : Nat} {cell : BoxCell} :
    let box := arrange candidates (some selected) width height minimum
    box.cells[other]? = some cell →
      (cell.index = selected ↔ other = selected % (height * box.columns)) ∧
        (cell.selected = true ↔ cell.index = selected) := by
  intro box found
  have first : box.page * (height * box.columns) + selected % (height * box.columns) = selected :=
    (place_of_selected room high known).2
  obtain ⟨_, _, index, _, chosen⟩ := of_getElem?_cells filled room high (some selected) small found
  change cell.index = box.page * (height * box.columns) + other at index
  refine ⟨by omega, ?_⟩
  rw [chosen, decide_eq_true_eq, Option.some.injEq, eq_comm]

/-- The page of a selected candidate holds it once and marks nothing else. -/
theorem marks_arrange :
    (arrange candidates (some selected) width height minimum).Marks selected := by
  have found := @getElem?_cells_selected candidates width height minimum filled room high _ known
  refine ⟨_, filter_eq_singleton found fun other cell held => ?_,
    filter_eq_singleton found fun other cell held => ?_⟩
  · rw [decide_eq_true_eq]
    exact (selected_iff filled room high small known held).1
  · obtain ⟨number, chosen⟩ := selected_iff filled room high small known held
    rw [chosen, number]

/-- The selected candidate stands in one row of the page only. -/
theorem row_of_selected :
    let box := arrange candidates (some selected) width height minimum
    selected % height < box.rows ∧
      ∀ cell ∈ box.cells, cell.selected = true → cell.row = selected % height := by
  intro box
  have stands : ∀ {place : Nat} {cell : BoxCell}, box.cells[place]? = some cell →
      place = selected % (height * box.columns) →
        cell.row = selected % height ∧ cell.row < box.rows := by
    intro place cell held same
    obtain ⟨_, ⟨row, inside⟩, _⟩ := of_getElem?_cells filled room high (some selected) small held
    rw [same, Nat.mod_mul_right_mod] at row
    exact ⟨row, inside⟩
  obtain ⟨row, inside⟩ := stands (getElem?_cells_selected filled room high known) rfl
  refine ⟨row ▸ inside, fun cell member marked => ?_⟩
  obtain ⟨other, held⟩ := List.mem_iff_getElem?.1 member
  obtain ⟨number, chosen⟩ := selected_iff filled room high small known held
  exact (stands held (number.1 (chosen.1 marked))).1

/-- In the row of the selected candidate no other one is selected. -/
theorem exists_row :
    let box := arrange candidates (some selected) width height minimum
    ∃ front behind : List BoxCell,
      (box.cells.filter fun cell => cell.row = selected % height) =
          front ++ cellOf height (some selected) selected (selected % (height * box.columns))
            candidates[selected] :: behind ∧
        ∀ cell ∈ front ++ behind, cell.selected = false := by
  intro box
  let place := selected % (height * box.columns)
  let inRow : BoxCell → Bool := fun cell => cell.row = selected % height
  have found := @getElem?_cells_selected candidates width height minimum filled room high _ known
  obtain ⟨inside, here⟩ := List.getElem?_eq_some_iff.1 found
  have marked : (cellOf height (some selected) selected place candidates[selected]).selected = true
    := decide_eq_true rfl
  have lies : inRow (cellOf height (some selected) selected place candidates[selected]) = true :=
    decide_eq_true ((row_of_selected filled room high small known).2 _ (here ▸ List.getElem_mem _)
      marked)
  have unmarked : ∀ {other : Nat} {cell : BoxCell}, box.cells[other]? = some cell →
      other ≠ place → cell.selected = false := by
    intro other cell held elsewhere
    obtain ⟨number, chosen⟩ := selected_iff filled room high small known held
    exact Bool.eq_false_iff.2 fun marked => elsewhere (number.1 (chosen.1 marked))
  refine ⟨(box.cells.take place).filter inRow, (box.cells.drop (place + 1)).filter inRow, ?_,
    fun cell member => ?_⟩
  · rw [← List.filter_cons_of_pos lies, ← here, ← List.filter_append]
    exact congrArg _ (by rw [List.getElem_cons_drop, List.take_append_drop])
  · rcases List.mem_append.1 member with early | late
    · obtain ⟨other, earlier, rfl⟩ := List.mem_take_iff_getElem.1 (List.mem_filter.1 early).1
      exact unmarked (List.getElem?_eq_getElem (by omega)) (by omega)
    · obtain ⟨other, later, rfl⟩ := List.mem_drop_iff_getElem.1 (List.mem_filter.1 late).1
      exact unmarked (List.getElem?_eq_getElem (by omega)) (by omega)

end Selected

variable (word : width ≤ 65535)

include word

omit small in
/-- In several columns a cell is its label, with room for a blank behind it. -/
theorem several_arrange :
    let box := arrange candidates selected? width height minimum
    1 < box.columns → ∀ cell ∈ box.cells,
      cell.description? = none ∧ cell.label.width < box.itemWidth := by
  intro box several cell member
  obtain ⟨candidate, offered, label, description⟩ := exists_candidate_of_mem_cells member
  simp only [box, arrange_of_room filled room high] at several ⊢
  rw [label, description]
  exact ⟨presence_of_not_hasDescription ((columnsOf_several several).2 candidate offered),
    width_label_lt offered room word several⟩

/-- Columns are filled one after the other from top to bottom. -/
theorem columnMajor_arrange :
    ColumnMajor height (arrange candidates selected? width height minimum).cells := by
  intro place cell found
  obtain ⟨inside, ⟨row, _⟩, _⟩ := of_getElem?_cells filled room high selected? small found
  have stands := @getElem?_cells candidates width height minimum filled room high selected? place
  simp only at stands
  rw [stands, if_pos inside] at found
  obtain ⟨candidate, _, rfl⟩ := Option.map_eq_some_iff.1 found
  have few : (arrange candidates selected? width height minimum).columns ≤ max width 1 := by
    rw [arrange_of_room filled room high]
    exact columnsOf_le candidates width height _
  have column := Nat.div_lt_of_lt_mul inside
  exact ⟨Nat.mod_eq_of_lt (by omega), row⟩

/-- A box keeps to its width and height, and its cells show their candidates at places of their
own. -/
theorem wellPlaced_arrange :
    (arrange candidates selected? width height minimum).WellPlaced candidates width height := by
  have bounds := itemWidthOf_bounds candidates minimum room word
  have placed := @columnMajor_arrange candidates width height minimum filled room high selected?
    small word
  refine ⟨?_, ?_, rows_arrange_le .., fun cell member => ?_, placed.nodup, fun cell member => ?_⟩
  · rw [arrange_of_room filled room high]
    exact bounds.1
  · rw [arrange_of_room filled room high]
    by_cases several : 1 < columnsOf candidates width height (itemWidthOf candidates width minimum)
    · exact (columnsOf_several several).1
    · refine Nat.le_trans (Nat.mul_le_mul_right _ (Nat.le_of_not_lt several)) ?_
      rw [Nat.one_mul]
      exact bounds.2
  · obtain ⟨place, found⟩ := List.mem_iff_getElem?.1 member
    obtain ⟨inside, ⟨_, row⟩, _⟩ := of_getElem?_cells filled room high selected? small found
    rw [(placed place cell found).1]
    exact ⟨Nat.div_lt_of_lt_mul inside, row⟩
  · obtain ⟨place, found⟩ := List.mem_iff_getElem?.1 member
    obtain ⟨_, _, _, label, _⟩ := of_getElem?_cells filled room high selected? small found
    exact label

end Pages

end CompletionBox

end Promptline
