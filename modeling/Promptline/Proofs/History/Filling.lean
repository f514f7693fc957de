/-
This file fills the score matrix row by row and reads the match from it. Behind the leftmost places
every row becomes that of the table, and a match that starts at a real score never leaves them.
-/

import Promptline.Proofs.History.Matrix

namespace Promptline.Fuzzy

section Filling

variable (sensitive : Bool) (places : List Place) (pairs : List (Char × Nat))

/-- The column from which on a row is filled. -/
def originOf : Nat → Nat
  | 0 => 0
  | row + 1 =>
      match pairs[row]? with
      | none => 0
      | some (_, first) => first

namespace Matrix

/-- The row of a pattern character is filled up to the column. -/
structure RowFilled (row : Nat) (p : Char) (first : Nat) (start : Matrix) (done : Nat)
    (matrix : Matrix) : Prop where
  shaped : matrix.Shaped (pairs.length + 1) (places.length + 1)
  modest : Modest matrix.cells
  filled : ∀ column, first ≤ column → column ≤ done →
    (matrix.cell (row + 1) column).moves =
      .row sensitive places p first (table sensitive places pairs row) column
  missed : ¬ Hits sensitive places p first done → (matrix.cell (row + 1) done).bonus = 0
  apart : ∀ other column, column ≤ places.length → other ≠ row + 1 →
    matrix.cell other column = start.cell other column

/-- The rows are filled up to the given one, and the later ones have an empty cell in front of their
leftmost place. -/
structure Filled (done : Nat) (matrix : Matrix) : Prop where
  shaped : matrix.Shaped (pairs.length + 1) (places.length + 1)
  modest : Modest matrix.cells
  filled : ∀ row ≤ done, ∀ column, originOf pairs row ≤ column → column ≤ places.length →
    (matrix.cell row column).moves = table sensitive places pairs row column
  clear : ∀ (row : Nat) (p : Char) (first : Nat), done ≤ row → pairs[row]? = some (p, first) →
    matrix.cell (row + 1) first = .empty

variable {sensitive places pairs}

/-- The bonus that a match finds on its left is only a stale one where two matches stand in a row
twice. -/
theorem bonus_of_hits (aligned : Aligned sensitive places pairs) {row : Nat} {p : Char}
    {first : Nat} (found : pairs[row]? = some (p, first)) {start : Matrix} {column : Nat}
    {matrix : Matrix}
    (filled : RowFilled sensitive places pairs row p first start column matrix) {place : Place}
    (there : places[column]? = some place) (same : agrees sensitive p place.char = true)
    (matched : hitsOf sensitive places pairs row column) :
    (matrix.cell (row + 1) column).bonus = 0 := by
  refine filled.missed fun twice => ?_
  cases row with
  | zero => exact matched
  | succ row =>
      cases held : pairs[row]? with
      | none =>
          simp only [hitsOf, held] at matched
      | some pair =>
          obtain ⟨q, before⟩ := pair
          simp only [hitsOf, held] at matched
          obtain ⟨_, one, here, agrees⟩ := matched
          obtain ⟨behind, other, here', agrees'⟩ := twice
          obtain rfl := Option.some.inj (here.symm.trans here')
          have next : places[column - 1 + 1]? = some place := by
            rwa [Nat.sub_add_cancel (by omega)]
          have different := aligned.apart row q before p first held found (column - 1) one place
            here next agrees agrees'
          rw [same] at different
          exact absurd different.symm Bool.false_ne_true

/-- One more place of a row is filled. -/
theorem RowFilled.step (aligned : Aligned sensitive places pairs) {row : Nat} {p : Char}
    {first : Nat} (found : pairs[row]? = some (p, first)) {start matrix : Matrix} {column : Nat}
    (above : ∀ column, first ≤ column → column ≤ places.length →
      (start.cell row column).moves = table sensitive places pairs row column)
    (behind : first ≤ column) {place : Place} (there : places[column]? = some place)
    (filled : RowFilled sensitive places pairs row p first start column matrix) :
    RowFilled sensitive places pairs row p first start (column + 1)
      (matrix.score sensitive row p place) := by
  have inside : column < places.length := (List.getElem?_eq_some_iff.1 there).1
  have inRows : row < pairs.length := (List.getElem?_eq_some_iff.1 found).1
  have bound := aligned.modest place (List.mem_of_getElem? there)
  obtain rfl := aligned.numbered column place there
  obtain ⟨shaped, scored, missed, done, apart⟩ :=
    steps_score filled.shaped sensitive p place (Nat.succ_lt_succ inRows)
      (Nat.succ_lt_succ inside)
  have sound := aligned.sound row (Nat.le_of_lt inRows)
  have next : (matrix.score sensitive row p place |>.cell (row + 1) (place.column + 1)).moves =
      .row sensitive places p first (table sensitive places pairs row) (place.column + 1) := by
    have atMost := Matrix.bonus_cell_le filled.modest (row + 1) place.column
    rw [scored, filled.apart row _ (Nat.le_of_lt inside) (Nat.ne_of_lt (Nat.lt_succ_self row)),
      above _ behind (Nat.le_of_lt inside), filled.filled _ behind (Nat.le_refl _),
      row_succ behind there]
    refine nextWith_eq_next sound (Nat.le_trans (aligned.below found) (by omega))
      (Nat.le_of_lt inside) aligned.short bound (by omega) fun same matched => ?_
    rw [bonus_of_hits aligned found filled there same matched]
    omega
  refine ⟨shaped, modest_score filled.modest sensitive row p bound.2,
    fun other from_first upTo => ?_, fun apart => ?_, fun other column within different => ?_⟩
  · rcases Nat.lt_or_eq_of_le upTo with before | rfl
    · have earlier := Nat.le_of_lt_succ before
      rw [done other earlier]
      exact filled.filled other from_first earlier
    · exact next
  · rw [hits_succ_iff there] at apart
    refine missed ?_
    simpa [behind] using apart
  · rw [apart other column (Nat.lt_succ_of_le within) different]
    exact filled.apart other column within different

/-- The rest of a row is filled. -/
theorem RowFilled.run (aligned : Aligned sensitive places pairs) {row : Nat} {p : Char}
    {first : Nat} (found : pairs[row]? = some (p, first)) {start : Matrix}
    (above : ∀ column, first ≤ column → column ≤ places.length →
      (start.cell row column).moves = table sensitive places pairs row column)
    (rest : List Place) {column : Nat} (split : places.drop column = rest)
    (inside : column ≤ places.length) (behind : first ≤ column) {matrix : Matrix}
    (filled : RowFilled sensitive places pairs row p first start column matrix) :
    RowFilled sensitive places pairs row p first start places.length
      (rest.foldl (Matrix.score sensitive row p) matrix) := by
  induction rest generalizing column matrix with
  | nil =>
      have all : column = places.length :=
        Nat.le_antisymm inside (List.drop_eq_nil_iff.1 split)
      exact all ▸ filled
  | cons place rest inductionHypothesis =>
      have there : places[column]? = some place := by
        rw [← List.head?_drop, split]
        rfl
      have later : places.drop (column + 1) = rest := by
        rw [← List.tail_drop, split]
        rfl
      exact inductionHypothesis later (List.getElem?_eq_some_iff.1 there).1
        (Nat.le_succ_of_le behind) (filled.step aligned found above behind there)

/-- One more row is filled. -/
theorem Filled.step (aligned : Aligned sensitive places pairs) {row : Nat} {p : Char}
    {first : Nat} (found : pairs[row]? = some (p, first)) {matrix : Matrix}
    (filled : Filled sensitive places pairs row matrix) :
    Filled sensitive places pairs (row + 1)
      ((places.drop first).foldl (Matrix.score sensitive row p) matrix) := by
  obtain ⟨place, there, _⟩ := aligned.placed row p first found
  have inside : first ≤ places.length := Nat.le_of_lt (List.getElem?_eq_some_iff.1 there).1
  have origin : originOf pairs row ≤ first := by
    cases row with
    | zero => exact Nat.zero_le _
    | succ row =>
        simp only [originOf]
        split
        · exact Nat.zero_le _
        next q before held => exact Nat.le_of_lt (aligned.ascending row q before p first held found)
  have above (column : Nat) (behind : first ≤ column) (within : column ≤ places.length) :
      (matrix.cell row column).moves = table sensitive places pairs row column :=
    filled.filled row (Nat.le_refl _) column (Nat.le_trans origin behind) within
  have empty := filled.clear row p first (Nat.le_refl _) found
  have started : RowFilled sensitive places pairs row p first matrix first matrix := by
    refine ⟨filled.shaped, filled.modest, fun column behind upTo => ?_, fun _ => ?_,
      fun _ _ _ _ => rfl⟩
    · obtain rfl := Nat.le_antisymm upTo behind
      rw [empty, row_of_le column (Nat.le_refl _)]
      rfl
    · rw [empty]
      rfl
  obtain ⟨shaped, modest, done, _, apart⟩ :=
    started.run aligned found above _ rfl inside (Nat.le_refl _)
  refine ⟨shaped, modest, fun other upTo column behind within => ?_,
    fun other q next upTo held => ?_⟩
  · rcases Nat.lt_or_eq_of_le upTo with before | rfl
    · rw [apart other column within (Nat.ne_of_lt before)]
      exact filled.filled other (Nat.le_of_lt_succ before) column behind within
    · simp only [originOf, found] at behind
      simpa only [table, found] using done column behind within
  · obtain ⟨place, there, _⟩ := aligned.placed other q next held
    have within : next ≤ places.length := Nat.le_of_lt (List.getElem?_eq_some_iff.1 there).1
    rw [apart (other + 1) next within (by omega)]
    exact filled.clear other q next (Nat.le_of_succ_le upTo) held

/-- All rows are filled, whatever the cells held before. -/
theorem Filled.run (aligned : Aligned sensitive places pairs) (rest : List (Char × Nat))
    {row : Nat} (split : pairs.drop row = rest) (inside : row ≤ pairs.length) {matrix : Matrix}
    (filled : Filled sensitive places pairs row matrix) :
    Filled sensitive places pairs pairs.length
      ((rest.zipIdx row).foldl (fun matrix ((p, first), row) =>
        (places.drop first).foldl (Matrix.score sensitive row p) matrix) matrix) := by
  induction rest generalizing row matrix with
  | nil =>
      have all : row = pairs.length := Nat.le_antisymm inside (List.drop_eq_nil_iff.1 split)
      exact all ▸ filled
  | cons pair rest inductionHypothesis =>
      obtain ⟨p, first⟩ := pair
      have found : pairs[row]? = some (p, first) := by
        rw [← List.head?_drop, split]
        rfl
      have later : pairs.drop (row + 1) = rest := by
        rw [← List.tail_drop, split]
        rfl
      exact inductionHypothesis later (List.getElem?_eq_some_iff.1 found).1
        (filled.step aligned found)

/-- The preparation leaves a matrix whose first row is filled. -/
theorem filled_prepare {text pattern : Text} {leftmost : List Nat} {cells : Array Cell}
    (modest : Modest cells) (numbered : pairs = pattern.zip leftmost)
    (sameLength : pattern.length = leftmost.length)
    (inside : ∀ first ∈ leftmost, first ≤ places.length)
    (width : places.length = text.length) :
    Filled sensitive places pairs 0
      ((resized cells (pattern.length + 1) (text.length + 1)).prepare leftmost) := by
  have rows : pairs.length + 1 = pattern.length + 1 := by
    rw [numbered, List.length_zip, ← sameLength, Nat.min_self]
  rw [← rows, ← width]
  have shaped := shaped_resized cells (pairs.length + 1) (places.length + 1)
  have targets : ∀ target ∈ leftmost.zipIdx 1,
      target.2 < pairs.length + 1 ∧ target.1 < places.length + 1 := by
    intro target member
    obtain ⟨_, upTo, same⟩ := List.mem_zipIdx member
    have within := inside target.1 (same ▸ List.getElem_mem _)
    omega
  obtain ⟨shaped, clear⟩ :=
    clearAll (leftmost.zipIdx 1) (shaped.modify 0 0 fun _ => .empty) targets
  obtain ⟨shaped, above, kept⟩ := startAbove (List.range (places.length + 1)) shaped
    (Nat.succ_pos _) fun target member => List.mem_range.1 member
  refine ⟨shaped, modest_prepare (modest_resized modest _ _) leftmost,
    fun row upTo column _ within => ?_, fun row p first _ held => ?_⟩
  · obtain rfl := Nat.le_zero.1 upTo
    have within := Nat.lt_succ_of_le within
    exact above column within (.inl (List.mem_range.2 within))
  · rw [numbered, List.getElem?_zip_eq_some] at held
    have within := Nat.lt_succ_of_le (inside first (List.mem_of_getElem? held.2))
    have member : (first, row + 1) ∈ leftmost.zipIdx 1 := by
      rw [List.mk_mem_zipIdx_iff_le_and_getElem?_sub]
      exact ⟨Nat.le_add_left 1 row, held.2⟩
    refine (kept (row + 1) first within (Nat.succ_ne_zero row)).trans ?_
    exact clear (row + 1) first within (.inl member)

theorem origin_le (aligned : Aligned sensitive places pairs) (row : Nat) :
    originOf pairs row ≤ places.length := by
  cases row with
  | zero => exact Nat.zero_le _
  | succ row =>
      simp only [originOf]
      split
      · exact Nat.zero_le _
      next p first found =>
        obtain ⟨place, there, _⟩ := aligned.placed row p first found
        exact Nat.le_of_lt (List.getElem?_eq_some_iff.1 there).1

/-- The columns that compete for the greatest score of a row. -/
theorem mem_rivals_iff {columns first next : Nat} :
    next ∈ (List.range columns).drop (first + 1) ↔ first < next ∧ next < columns := by
  rw [List.range_eq_range', List.drop_range', List.mem_range'_1]
  omega

/-- The best column has its own score, and no column has a greater one. -/
theorem best_spec (matrix : Matrix) (row first : Nat) :
    (matrix.best row first).2 = (matrix.cell row (matrix.best row first).1).matched ∧
      ((matrix.best row first).1 = first ∨
        first < (matrix.best row first).1 ∧ (matrix.best row first).1 < matrix.columns) ∧
      ∀ next, first < next → next < matrix.columns →
        (matrix.cell row next).matched ≤ (matrix.best row first).2 := by
  have chosen (rivals : List Nat) (best : Nat × Int)
      (own : best.2 = (matrix.cell row best.1).matched) :
      let winner := rivals.foldl (fun best next =>
        let here := (matrix.cell row next).matched
        if best.2 ≤ here then (next, here) else best) best
      winner.2 = (matrix.cell row winner.1).matched ∧
        (winner.1 = best.1 ∨ winner.1 ∈ rivals) ∧ best.2 ≤ winner.2 ∧
        ∀ next ∈ rivals, (matrix.cell row next).matched ≤ winner.2 := by
    induction rivals generalizing best with
    | nil => exact ⟨own, .inl rfl, Int.le_refl _, by simp⟩
    | cons rival rivals inductionHypothesis =>
        simp only [List.foldl_cons, List.forall_mem_cons]
        split
        next beaten =>
          obtain ⟨same, winner, atLeast, others⟩ :=
            inductionHypothesis (rival, (matrix.cell row rival).matched) rfl
          exact ⟨same, .inr (List.mem_cons.2 winner), Int.le_trans beaten atLeast, atLeast,
            others⟩
        next ahead =>
          obtain ⟨same, winner, atLeast, others⟩ := inductionHypothesis best own
          exact ⟨same, winner.imp_right (List.mem_cons_of_mem rival), atLeast,
            Int.le_trans (Int.le_of_lt (Int.not_le.1 ahead)) atLeast, others⟩
  obtain ⟨own, winner, _, greatest⟩ :=
    chosen ((List.range matrix.columns).drop (first + 1))
      (first, (matrix.cell row first).matched) rfl
  exact ⟨own, winner.imp_right mem_rivals_iff.1,
    fun next behind within => greatest next (mem_rivals_iff.2 ⟨behind, within⟩)⟩

variable {one other : Matrix}

theorem Filled.best_eq (aligned : Aligned sensitive places pairs)
    (filled : Filled sensitive places pairs pairs.length one)
    (filled' : Filled sensitive places pairs pairs.length other) :
    one.best pairs.length (originOf pairs pairs.length) =
      other.best pairs.length (originOf pairs pairs.length) := by
  have same (column : Nat) (behind : originOf pairs pairs.length ≤ column)
      (within : column ≤ places.length) :
      (one.cell pairs.length column).matched = (other.cell pairs.length column).matched := by
    have moves := (filled.filled _ (Nat.le_refl _) column behind within).trans
      (filled'.filled _ (Nat.le_refl _) column behind within).symm
    exact congrArg Moves.matched moves
  have origin := origin_le aligned pairs.length
  simp only [best, filled.shaped.columns_eq, filled'.shaped.columns_eq,
    same _ (Nat.le_refl _) origin]
  refine List.foldl_ext _ _ _ fun best next member => ?_
  obtain ⟨behind, within⟩ := mem_rivals_iff.1 member
  simp only [same next (Nat.le_of_lt behind) (Nat.le_of_lt_succ within)]

/-- With a pattern the best column is one that its last character stands in front of. -/
theorem Filled.hits_best (aligned : Aligned sensitive places pairs)
    (filled : Filled sensitive places pairs pairs.length one) (some_row : 0 < pairs.length) :
    hitsOf sensitive places pairs pairs.length
      (one.best pairs.length (originOf pairs pairs.length)).1 := by
  obtain ⟨row, rows⟩ := Nat.exists_eq_succ_of_ne_zero (Nat.ne_of_gt some_row)
  obtain ⟨⟨p, first⟩, found⟩ : ∃ pair, pairs[row]? = some pair :=
    ⟨_, List.getElem?_eq_getElem (by omega)⟩
  obtain ⟨place, there, same⟩ := aligned.placed row p first found
  have inside : first < places.length := (List.getElem?_eq_some_iff.1 there).1
  have sound := aligned.sound pairs.length (Nat.le_refl _)
  have origin : originOf pairs pairs.length = first := by
    rw [rows]
    simp only [originOf, found]
  have hits : hitsOf sensitive places pairs pairs.length (first + 1) := by
    rw [rows]
    simp only [hitsOf, found]
    exact ⟨Nat.lt_succ_self first, place, there, same⟩
  have matched (column : Nat) (behind : first ≤ column) (within : column ≤ places.length) :
      (one.cell pairs.length column).matched =
        (table sensitive places pairs pairs.length column).matched :=
    congrArg Moves.matched
      (filled.filled _ (Nat.le_refl _) column (Nat.le_trans (Nat.le_of_eq origin) behind) within)
  obtain ⟨own, winner, greatest⟩ := best_spec one pairs.length first
  rw [origin]
  rw [filled.shaped.columns_eq] at winner greatest
  have behind : first ≤ (one.best pairs.length first).1 := by omega
  have within : (one.best pairs.length first).1 ≤ places.length := by omega
  by_contra missed
  have real := sound.hit (first + 1) inside hits
  have rival := greatest (first + 1) (Nat.lt_succ_self first) (by omega)
  have short := aligned.short
  rw [matched (first + 1) (Nat.le_succ first) inside, own, matched _ behind within,
    sound.miss _ missed] at rival
  simp only [Cell.awful] at rival
  simp only [reach] at short
  omega

/-- From a real score on the positions only depend on the table. -/
theorem Filled.trace_eq (aligned : Aligned sensitive places pairs)
    (filled : Filled sensitive places pairs pairs.length one)
    (filled' : Filled sensitive places pairs pairs.length other) (first : Nat)
    {row column : Nat} (inRows : row ≤ pairs.length) (inside : column ≤ places.length)
    {onMatch afterMatch : Bool}
    (real : 0 < row → if onMatch then hitsOf sensitive places pairs row column
      else startOf pairs row ≤ column) :
    one.trace first row onMatch afterMatch column =
      other.trace first row onMatch afterMatch column := by
  induction column generalizing row onMatch afterMatch with
  | zero => rfl
  | succ column inductionHypothesis =>
      cases row with
      | zero => simp only [trace, true_or, if_true]
      | succ row =>
          obtain ⟨⟨p, leftmost⟩, found⟩ : ∃ pair, pairs[row]? = some pair :=
            ⟨_, List.getElem?_eq_getElem inRows⟩
          obtain ⟨place, there⟩ : ∃ place, places[column]? = some place :=
            ⟨_, List.getElem?_eq_getElem inside⟩
          have real := real (Nat.succ_pos row)
          simp only [hitsOf, startOf, found, hits_succ_iff there] at real
          have behind : leftmost ≤ column := by
            split at real
            · exact real.1
            · omega
          have moves : table sensitive places pairs (row + 1) (column + 1) =
              .next sensitive p place (table sensitive places pairs row column)
                (table sensitive places pairs (row + 1) column) := by
            simp only [table, found]
            exact row_succ behind there
          have origin : originOf pairs (row + 1) ≤ column + 1 := by
            simp only [originOf, found]
            exact Nat.le_succ_of_le behind
          have cell := filled.filled (row + 1) inRows (column + 1) origin inside
          have cell' := filled'.filled (row + 1) inRows (column + 1) origin inside
          rw [moves] at cell cell'
          have modest := aligned.modest place (List.mem_of_getElem? there)
          simp only [trace, Nat.succ_ne_zero, false_or]
          split
          · rfl
          cases onMatch with
          | true =>
              have move : (one.cell (row + 1) (column + 1)).matchedAfterMatch = _ :=
                congrArg Moves.matchedAfterMatch cell
              have move' : (other.cell (row + 1) (column + 1)).matchedAfterMatch = _ :=
                congrArg Moves.matchedAfterMatch cell'
              have next := (aligned.sound row (Nat.le_of_lt inRows)).move_of_match
                (table sensitive places pairs (row + 1) column)
                (Nat.le_trans (aligned.below found) (Nat.succ_le_succ behind))
                (Nat.le_of_succ_le inside) aligned.short modest real.2
              simp only [if_true, Nat.add_sub_cancel, move, move']
              rw [inductionHypothesis (Nat.le_of_succ_le inRows) (Nat.le_of_succ_le inside)
                fun _ => next]
          | false =>
              have move : (one.cell (row + 1) (column + 1)).skippedAfterMatch = _ :=
                congrArg Moves.skippedAfterMatch cell
              have move' : (other.cell (row + 1) (column + 1)).skippedAfterMatch = _ :=
                congrArg Moves.skippedAfterMatch cell'
              have start : startOf pairs (row + 1) ≤ column + 1 := by
                simpa only [startOf, found, Bool.false_eq_true, if_false] using real
              have next := (aligned.sound (row + 1) inRows).move_of_skip sensitive p place
                (table sensitive places pairs row column) start (Nat.le_of_succ_le inside)
                aligned.short
              simp only [Bool.false_eq_true, if_false, move, move']
              rw [inductionHypothesis inRows (Nat.le_of_succ_le inside) fun _ => next]

/-- Two filled matrices give the same score and the same positions. -/
theorem Filled.read_eq (aligned : Aligned sensitive places pairs)
    (filled : Filled sensitive places pairs pairs.length one)
    (filled' : Filled sensitive places pairs pairs.length other) (first : Nat) :
    one.best pairs.length (originOf pairs pairs.length) =
        other.best pairs.length (originOf pairs pairs.length) ∧
      ∀ column, column = (one.best pairs.length (originOf pairs pairs.length)).1 →
        one.trace first pairs.length true true column =
          other.trace first pairs.length true true column := by
  refine ⟨filled.best_eq aligned filled', ?_⟩
  rintro _ rfl
  have inside : (one.best pairs.length (originOf pairs pairs.length)).1 ≤ places.length := by
    have origin := origin_le aligned pairs.length
    obtain ⟨_, winner, _⟩ := best_spec one pairs.length (originOf pairs pairs.length)
    rw [filled.shaped.columns_eq] at winner
    omega
  exact filled.trace_eq aligned filled' first (Nat.le_refl _) inside fun some_row =>
    filled.hits_best aligned some_row

end Matrix

end Filling

end Promptline.Fuzzy
