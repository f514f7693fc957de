/-
This file follows a match through the score matrix. Where no character is doubled in the pattern and
in the text, the match reads no cell that an earlier match has left, whatever the cells hold.
-/

import Promptline.Proofs.History.Scoring

namespace Promptline.Fuzzy

/-- No cell holds a greater bonus than a place can give. -/
def Modest (cells : Array Cell) : Prop :=
  ∀ (index : Nat) (cell : Cell), cells[index]? = some cell → cell.bonus ≤ 16

namespace Matrix

/-- The cells of the matrix are those of the rows and columns. -/
structure Shaped (matrix : Matrix) (rows columns : Nat) : Prop where
  columns_eq : matrix.columns = columns
  size_eq : matrix.cells.size = rows * columns

theorem Shaped.modify {matrix : Matrix} {rows columns : Nat} (shaped : matrix.Shaped rows columns)
    (row column : Nat) (change : Cell → Cell) :
    (matrix.modify row column change).Shaped rows columns :=
  ⟨shaped.columns_eq, Array.size_modify.trans shaped.size_eq⟩

/-- No two places of the rows share a cell. -/
theorem index_eq_iff {columns row column row' column' : Nat} (inside : column < columns)
    (inside' : column' < columns) :
    row * columns + column = row' * columns + column' ↔ row = row' ∧ column = column' := by
  constructor
  · intro same
    have rows := congrArg (· / columns) same
    have rest := congrArg (· % columns) same
    simp only [Nat.mul_comm _ columns, Nat.mul_add_div (Nat.zero_lt_of_lt inside), Nat.mul_add_mod,
      Nat.div_eq_of_lt inside, Nat.div_eq_of_lt inside', Nat.mod_eq_of_lt inside,
      Nat.mod_eq_of_lt inside', Nat.add_zero] at rows rest
    exact ⟨rows, rest⟩
  · rintro ⟨rfl, rfl⟩
    rfl

/-- A change is seen at its own place and nowhere else. -/
theorem cell_modify {matrix : Matrix} {rows columns : Nat} (shaped : matrix.Shaped rows columns)
    {row column row' column' : Nat} (inRows : row < rows) (inside : column < columns)
    (inside' : column' < columns) (change : Cell → Cell) :
    (matrix.modify row column change).cell row' column' =
      if row = row' ∧ column = column' then change (matrix.cell row column)
      else matrix.cell row' column' := by
  have known : row * columns + column < matrix.cells.size := by
    have rowsLeft := Nat.mul_le_mul_right columns (Nat.succ_le_of_lt inRows)
    rw [Nat.succ_mul] at rowsLeft
    rw [shaped.size_eq]
    omega
  simp only [cell, modify, shaped.columns_eq, Array.getElem?_modify, index_eq_iff inside inside']
  split
  next same =>
    obtain ⟨rfl, rfl⟩ := same
    rw [Array.getElem?_eq_getElem known]
    rfl
  · rfl

theorem modify_modify (matrix : Matrix) (row column : Nat) (change again : Cell → Cell) :
    (matrix.modify row column change).modify row column again =
      matrix.modify row column (again ∘ change) := by
  have same : (matrix.cells.modify (row * matrix.columns + column) change).modify
      (row * matrix.columns + column) again =
      matrix.cells.modify (row * matrix.columns + column) (again ∘ change) := by
    ext index
    · simp only [Array.size_modify]
    · simp only [Array.getElem_modify, Function.comp_apply]
      split <;> rfl
  simp only [modify, same]

theorem modest_modify {matrix : Matrix} (modest : Modest matrix.cells) {row column : Nat}
    {change : Cell → Cell} (kept : ∀ cell : Cell, cell.bonus ≤ 16 → (change cell).bonus ≤ 16) :
    Modest (matrix.modify row column change).cells := by
  intro index cell held
  simp only [modify, Array.getElem?_modify] at held
  split at held
  · obtain ⟨old, there, rfl⟩ := Option.map_eq_some_iff.1 held
    exact kept old (modest index old there)
  · exact modest index cell held

theorem bonus_cell_le {matrix : Matrix} (modest : Modest matrix.cells) (row column : Nat) :
    (matrix.cell row column).bonus ≤ 16 := by
  simp only [cell]
  cases held : matrix.cells[row * matrix.columns + column]? with
  | none => decide
  | some cell => exact modest _ cell held

theorem shaped_resized (cells : Array Cell) (rows columns : Nat) :
    (resized cells rows columns).Shaped rows columns := by
  refine ⟨rfl, ?_⟩
  simp only [resized, Array.take_eq_extract, Array.size_append, Array.size_replicate,
    Array.size_extract]
  omega

theorem modest_resized {cells : Array Cell} (modest : Modest cells) (rows columns : Nat) :
    Modest (resized cells rows columns).cells := by
  intro index cell held
  simp only [resized, Array.take_eq_extract, Array.getElem?_append,
    Array.getElem?_replicate] at held
  split at held
  · rw [Array.getElem?_extract] at held
    split at held
    · exact modest (0 + index) cell held
    · simp at held
  · split at held
    · obtain rfl := Option.some.inj held
      decide
    · simp at held

/-- Clearing cells leaves the shape alone, and a cleared cell stays clear. -/
theorem clearAll {rows columns : Nat} (targets : List (Nat × Nat)) {matrix : Matrix}
    (shaped : matrix.Shaped rows columns)
    (inside : ∀ target ∈ targets, target.2 < rows ∧ target.1 < columns) :
    let cleared := targets.foldl (fun matrix (column, row) => matrix.clear row column) matrix
    cleared.Shaped rows columns ∧ ∀ row column, column < columns →
      ((column, row) ∈ targets ∨ matrix.cell row column = .empty) →
        cleared.cell row column = .empty := by
  induction targets generalizing matrix with
  | nil => exact ⟨shaped, fun row column _ known => known.resolve_left List.not_mem_nil⟩
  | cons target rest inductionHypothesis =>
      obtain ⟨first, line⟩ := target
      rw [List.forall_mem_cons] at inside
      obtain ⟨shape, clear⟩ := inductionHypothesis (shaped.modify _ _ _) inside.2
      refine ⟨shape, fun row column within known => clear row column within ?_⟩
      change _ ∨ (matrix.modify line first fun _ => .empty).cell row column = .empty
      rw [cell_modify shaped inside.1.1 inside.1.2 within]
      rcases known with member | empty
      · rcases List.mem_cons.1 member with same | member
        · obtain ⟨rfl, rfl⟩ := Prod.ext_iff.1 same
          exact .inr (if_pos ⟨rfl, rfl⟩)
        · exact .inl member
      · rw [empty]
        exact .inr (ite_self _)

/-- Above the pattern all moves start anew, and the other rows keep what they hold. -/
theorem startAbove {rows columns : Nat} (targets : List Nat) {matrix : Matrix}
    (shaped : matrix.Shaped rows columns) (some_row : 0 < rows)
    (inside : ∀ target ∈ targets, target < columns) :
    let started := targets.foldl (fun matrix column =>
      matrix.modify 0 column fun _ => { Cell.empty with skipped := -1 }) matrix
    started.Shaped rows columns ∧
      (∀ column < columns, column ∈ targets ∨ (matrix.cell 0 column).moves = .above →
        (started.cell 0 column).moves = .above) ∧
      ∀ row column, column < columns → row ≠ 0 →
        started.cell row column = matrix.cell row column := by
  induction targets generalizing matrix with
  | nil =>
      exact ⟨shaped, fun column _ known => known.resolve_left List.not_mem_nil,
        fun _ _ _ _ => rfl⟩
  | cons target rest inductionHypothesis =>
      rw [List.forall_mem_cons] at inside
      obtain ⟨shape, above, kept⟩ := inductionHypothesis (shaped.modify _ _ _) inside.2
      refine ⟨shape, fun column within known => above column within ?_,
        fun row column within below => ?_⟩
      · rw [cell_modify shaped some_row inside.1 within]
        rcases known with member | started
        · rcases List.mem_cons.1 member with rfl | member
          · exact .inr (congrArg Cell.moves (if_pos ⟨rfl, rfl⟩))
          · exact .inl member
        · right
          split
          · rfl
          · exact started
      · refine (kept row column within below).trans ?_
        rw [cell_modify shaped some_row inside.1 within, if_neg fun same => below same.1.symm]

theorem modest_prepare {matrix : Matrix} (modest : Modest matrix.cells) (leftmost : List Nat) :
    Modest (matrix.prepare leftmost).cells := by
  have clear (matrix : Matrix) (modest : Modest matrix.cells) (row column : Nat) :
      Modest (matrix.clear row column).cells :=
    modest_modify modest fun _ _ => by decide
  refine List.foldlRecOn (motive := Modest ∘ Matrix.cells) _ _ ?_
    fun matrix modest column _ => ?_
  · refine List.foldlRecOn (motive := Modest ∘ Matrix.cells) _ _
      (clear matrix modest 0 0) fun matrix modest target _ => ?_
    exact clear matrix modest target.2 target.1
  · exact modest_modify modest fun _ _ => by decide

theorem modest_score {matrix : Matrix} (modest : Modest matrix.cells) (sensitive : Bool)
    (row : Nat) (p : Char) {place : Place} (bound : place.bonus ≤ 16) :
    Modest (matrix.score sensitive row p place).cells := by
  have run : max (matrix.cell (row + 1) place.column).bonus (max place.bonus 4) ≤ 16 := by
    have atMost := bonus_cell_le modest (row + 1) place.column
    omega
  simp only [score]
  refine modest_modify ?_ fun _ known => known
  split
  · refine modest_modify (modest_modify modest fun _ _ => run) fun _ known => ?_
    split <;> exact known
  · refine modest_modify modest fun _ _ => ?_
    change (0 : Int) ≤ 16
    decide

theorem modest_fill {matrix : Matrix} (modest : Modest matrix.cells) (sensitive : Bool)
    {places : List Place} (bound : ∀ place ∈ places, place.bonus ≤ 16) (pattern : Text)
    (leftmost : List Nat) : Modest (matrix.fill sensitive places pattern leftmost).cells := by
  refine List.foldlRecOn (motive := Modest ∘ Matrix.cells) _ _ modest
    fun matrix modest pair _ => ?_
  refine List.foldlRecOn (motive := Modest ∘ Matrix.cells) _ _ modest
    fun matrix modest place member => ?_
  exact modest_score modest sensitive pair.2 pair.1.1 (bound place (List.mem_of_mem_drop member))

/-- What the score of a place changes. A match in a row of matches takes over the bonus on its left,
and a place that does not match loses its own. -/
structure Steps (sensitive : Bool) (row : Nat) (p : Char) (place : Place) (rows columns : Nat)
    (matrix after : Matrix) : Prop where
  shaped : after.Shaped rows columns
  scored : (after.cell (row + 1) (place.column + 1)).moves =
    .nextWith sensitive p place
      (max (matrix.cell (row + 1) place.column).bonus (max place.bonus 4))
      (matrix.cell row place.column).moves (matrix.cell (row + 1) place.column).moves
  missed : agrees sensitive p place.char = false →
    (after.cell (row + 1) (place.column + 1)).bonus = 0
  done : ∀ column ≤ place.column,
    (after.cell (row + 1) column).moves = (matrix.cell (row + 1) column).moves
  apart : ∀ other column, column < columns → other ≠ row + 1 →
    after.cell other column = matrix.cell other column

theorem steps_score {matrix : Matrix} {rows columns : Nat} (shaped : matrix.Shaped rows columns)
    (sensitive : Bool) {row : Nat} (p : Char) (place : Place) (inRows : row + 1 < rows)
    (inside : place.column + 1 < columns) :
    Steps sensitive row p place rows columns matrix (matrix.score sensitive row p place) := by
  have before : place.column < columns := Nat.lt_of_succ_lt inside
  cases same : agrees sensitive p place.char with
  | false =>
      simp only [score, same, Bool.false_eq_true, if_false, modify_modify]
      refine ⟨shaped.modify _ _ _, ?_, fun _ => ?_, fun column left => ?_,
        fun other column within apart => ?_⟩
      · rw [cell_modify shaped inRows inside inside, if_pos ⟨rfl, rfl⟩]
        simp only [Cell.moves, Moves.nextWith, same, Function.comp_apply, Bool.false_and]
        rfl
      · rw [cell_modify shaped inRows inside inside, if_pos ⟨rfl, rfl⟩]
        rfl
      · rw [cell_modify shaped inRows inside (by omega), if_neg (by omega)]
      · rw [cell_modify shaped inRows inside within, if_neg fun equal => apart equal.1.symm]
  | true =>
      simp only [score, same, if_true, modify_modify]
      refine ⟨(shaped.modify _ _ _).modify _ _ _, ?_, ?_, fun column left => ?_,
        fun other column within apart => ?_⟩
      · rw [cell_modify (shaped.modify _ _ _) inRows inside inside, if_pos ⟨rfl, rfl⟩]
        simp only [Cell.moves, Moves.nextWith, same, Function.comp_apply, if_true]
        split
        next chosen =>
          rw [Moves.mk.injEq]
          exact ⟨by rw [Int.max_eq_right chosen], by simp [chosen], rfl, rfl⟩
        next refused =>
          have less := Int.le_of_lt (Int.not_le.1 refused)
          rw [Moves.mk.injEq]
          exact ⟨by rw [Int.max_eq_left less], by simp [refused], rfl, rfl⟩
      · exact fun other => absurd (same.symm.trans other) Bool.noConfusion
      · rw [cell_modify (shaped.modify _ _ _) inRows inside (by omega), if_neg (by omega),
          cell_modify shaped inRows before (by omega)]
        split
        next here =>
          obtain ⟨-, rfl⟩ := here
          rfl
        · rfl
      · rw [cell_modify (shaped.modify _ _ _) inRows inside within,
          cell_modify shaped inRows before within, if_neg fun equal => apart equal.1.symm,
          if_neg fun equal => apart equal.1.symm]

end Matrix

end Promptline.Fuzzy
