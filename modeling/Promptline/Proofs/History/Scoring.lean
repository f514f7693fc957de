/-
This file describes the score matrix of a match without the cells that an earlier match has left. A
row is a function from its columns, and its scores are either those of a real match or so low that
no choice falls on them.
-/

import Promptline.Proofs.History.Occurrence

namespace Promptline.Fuzzy

/-- The part of a cell that a match reads after its row is done. -/
structure Moves where
  matched : Int
  matchedAfterMatch : Bool
  skipped : Int
  skippedAfterMatch : Bool
  deriving DecidableEq, Repr

def Cell.moves (cell : Cell) : Moves :=
  ⟨cell.matched, cell.matchedAfterMatch, cell.skipped, cell.skippedAfterMatch⟩

namespace Moves

def nowhere : Moves := Cell.empty.moves

/-- Above the first pattern character a place can only be skipped. -/
def above : Moves := { nowhere with skipped := -1 }

/-- The moves at a place, with the bonus that a match in a row of matches gets. The moves before it
belong to the pattern character before, the moves on its left to the same one. -/
def nextWith (sensitive : Bool) (p : Char) (place : Place) (run : Int) (before left : Moves) :
    Moves :=
  let afterMatch := before.matched + run
  let afterSkip := before.skipped + place.bonus
  let worth := if p = place.char then 16 else 14
  let opened := left.matched - 4
  let extended := left.skipped - 1
  { matched :=
      if agrees sensitive p place.char then max afterSkip afterMatch + worth else Cell.awful
    matchedAfterMatch := agrees sensitive p place.char && decide (afterSkip ≤ afterMatch)
    skipped := max opened extended
    skippedAfterMatch := decide (extended ≤ opened) }

/-- The moves at a place behind which no earlier match has left a bonus. -/
def next (sensitive : Bool) (p : Char) (place : Place) (before left : Moves) : Moves :=
  nextWith sensitive p place (max place.bonus 4) before left

/-- The row of a pattern character below another row. It starts at the leftmost place. -/
def row (sensitive : Bool) (places : List Place) (p : Char) (first : Nat) (before : Nat → Moves) :
    Nat → Moves
  | 0 => nowhere
  | column + 1 =>
      if column < first then nowhere
      else match places[column]? with
        | none => nowhere
        | some place =>
            next sensitive p place (before column) (row sensitive places p first before column)

end Moves

/-- The pattern character of a row agrees with the place in front of the column. -/
def Hits (sensitive : Bool) (places : List Place) (p : Char) (first column : Nat) : Prop :=
  first < column ∧
    ∃ place, places[column - 1]? = some place ∧ agrees sensitive p place.char = true

/-- A row holds real scores where its pattern character agrees with a place and where such a place
has been skipped. Every other score in it is out of reach. -/
structure Sound (width : Nat) (hits : Nat → Prop) (start : Nat) (moves : Nat → Moves) : Prop where
  hit : ∀ column ≤ width, hits column → 3 - (column : Int) ≤ (moves column).matched
  miss : ∀ column, ¬ hits column → (moves column).matched = Cell.awful
  live : ∀ column ≤ width, start ≤ column → -1 - (column : Int) ≤ (moves column).skipped
  dead : ∀ column < start, (moves column).skipped ≤ Cell.awful
  entered : ∀ column, start ≤ column + 1 → hits column ∨ start ≤ column

theorem sound_above (width : Nat) : Sound width (fun _ => False) 0 fun _ => Moves.above where
  hit _ _ impossible := impossible.elim
  miss _ _ := rfl
  live column _ _ := by
    change -1 - (column : Int) ≤ -1
    omega
  dead column before := absurd before (Nat.not_lt_zero column)
  entered column _ := .inr (Nat.zero_le column)

section Row

variable {sensitive : Bool} {places : List Place} {p : Char} {first start : Nat}
  {hits : Nat → Prop} {before : Nat → Moves}

theorem row_of_le (column : Nat) (inFront : column ≤ first) :
    Moves.row sensitive places p first before column = .nowhere := by
  cases column with
  | zero => rfl
  | succ column => simp only [Moves.row, if_pos (Nat.lt_of_succ_le inFront)]

theorem row_succ {column : Nat} {place : Place} (behind : first ≤ column)
    (there : places[column]? = some place) :
    Moves.row sensitive places p first before (column + 1) =
      .next sensitive p place (before column)
        (Moves.row sensitive places p first before column) := by
  simp only [Moves.row, if_neg (Nat.not_lt.2 behind), there]

theorem hits_succ_iff {column : Nat} {place : Place} (there : places[column]? = some place) :
    Hits sensitive places p first (column + 1) ↔
      first ≤ column ∧ agrees sensitive p place.char = true := by
  rw [Hits, Nat.lt_succ_iff, Nat.add_sub_cancel, there]
  simp only [Option.some.injEq, exists_eq_left']

theorem matched_row_of_hits (sound : Sound places.length hits start before)
    (below : start ≤ first + 1) (modest : ∀ place ∈ places, 0 ≤ place.bonus) {column : Nat}
    (inside : column ≤ places.length) (matched : Hits sensitive places p first column) :
    3 - (column : Int) ≤ (Moves.row sensitive places p first before column).matched := by
  obtain ⟨behind, place, there, same⟩ := matched
  obtain ⟨column, rfl⟩ := Nat.exists_eq_succ_of_ne_zero (Nat.ne_of_gt (Nat.zero_lt_of_lt behind))
  have there : places[column]? = some place := there
  have bonus := modest place (List.mem_of_getElem? there)
  rw [row_succ (Nat.lt_succ_iff.1 behind) there]
  simp only [Moves.next, Moves.nextWith, same, if_true]
  have worth : (14 : Int) ≤ if p = place.char then 16 else 14 := by split <;> omega
  -- The place in front was a match or was skipped, and either has a real score.
  rcases sound.entered column (by omega) with matched | skipped
  · have real := sound.hit column (by omega) matched
    omega
  · have real := sound.live column (by omega) skipped
    omega

theorem matched_row_of_not_hits {column : Nat} (apart : ¬ Hits sensitive places p first column) :
    (Moves.row sensitive places p first before column).matched = Cell.awful := by
  cases column with
  | zero => rfl
  | succ column =>
      by_cases behind : first ≤ column
      · cases there : places[column]? with
        | none =>
            simp only [Moves.row, if_neg (Nat.not_lt.2 behind), there]
            rfl
        | some place =>
            rw [hits_succ_iff there] at apart
            have other : agrees sensitive p place.char = false := by simpa [behind] using apart
            rw [row_succ behind there]
            simp [Moves.next, Moves.nextWith, other]
      · rw [row_of_le (column + 1) (by omega)]
        rfl

/-- Below a sound row, the row of a pattern character that occurs in the text is sound. -/
theorem Sound.row (sound : Sound places.length hits start before) (below : start ≤ first + 1)
    (placed : ∃ place, places[first]? = some place ∧ agrees sensitive p place.char = true)
    (modest : ∀ place ∈ places, 0 ≤ place.bonus) :
    Sound places.length (Hits sensitive places p first) (first + 2)
      (Moves.row sensitive places p first before) := by
  have entered (column : Nat) (near : first + 2 ≤ column + 1) :
      Hits sensitive places p first column ∨ first + 2 ≤ column := by
    by_cases next : column = first + 1
    · subst next
      exact .inl ⟨Nat.lt_succ_self first, placed⟩
    · exact .inr (by omega)
  refine ⟨fun _ inside matched => matched_row_of_hits sound below modest inside matched,
    fun _ apart => matched_row_of_not_hits apart, fun column inside behind => ?_,
    fun column inFront => ?_, entered⟩
  · induction column with
    | zero => omega
    | succ column inductionHypothesis =>
        obtain ⟨place, there⟩ : ∃ place, places[column]? = some place :=
          ⟨_, List.getElem?_eq_getElem (by omega)⟩
        rw [row_succ (by omega) there]
        simp only [Moves.next, Moves.nextWith]
        rcases entered column behind with matched | skipped
        · have real := matched_row_of_hits sound below modest (by omega) matched
          omega
        · have real := inductionHypothesis (by omega) skipped
          omega
  · by_cases next : column = first + 1
    · subst next
      obtain ⟨place, there, _⟩ := placed
      rw [row_succ (Nat.le_refl _) there, row_of_le first (Nat.le_refl _)]
      change max (Cell.awful - 4) (Cell.awful - 1) ≤ Cell.awful
      decide
    · rw [row_of_le column (by omega)]
      exact Int.le_refl _

/-- A text shorter than this keeps real scores above the score of what cannot be. -/
def reach : Nat := 32700

/-- The bonus of a row of matches only counts behind a match. -/
theorem nextWith_eq_next {column : Nat} {place : Place} {run : Int} {left : Moves}
    (sound : Sound places.length hits start before) (below : start ≤ column + 1)
    (inside : column ≤ places.length) (short : places.length < reach)
    (modest : 0 ≤ place.bonus ∧ place.bonus ≤ 16) (atMost : run ≤ 16)
    (fresh : agrees sensitive p place.char = true → hits column → run = max place.bonus 4) :
    Moves.nextWith sensitive p place run (before column) left =
      Moves.next sensitive p place (before column) left := by
  simp only [Moves.next, Moves.nextWith]
  cases same : agrees sensitive p place.char with
  | false => simp
  | true =>
      by_cases matched : hits column
      · rw [fresh same matched]
      · have awful := sound.miss column matched
        have real := sound.live column inside ((sound.entered column below).resolve_left matched)
        simp only [reach] at short
        have lost (run : Int) (atMost : run ≤ 16) :
            (before column).matched + run < (before column).skipped + place.bonus := by
          rw [awful, Cell.awful]
          omega
        have one := lost run atMost
        have other := lost (max place.bonus 4) (by omega)
        simp only [Int.max_eq_left (Int.le_of_lt one), Int.max_eq_left (Int.le_of_lt other),
          decide_eq_false (Int.not_le.2 one), decide_eq_false (Int.not_le.2 other)]

/-- Of a match and of a skip that both could come next, the better one has a real score. -/
theorem Sound.chosen {moves : Nat → Moves} {column : Nat}
    (sound : Sound places.length hits start moves) (below : start ≤ column + 1)
    (inside : column ≤ places.length) (short : places.length < reach) {toMatch toSkip : Int}
    (nearMatch : -4 ≤ toMatch ∧ toMatch ≤ 16) (nearSkip : -4 ≤ toSkip ∧ toSkip ≤ 16) :
    if (moves column).skipped + toSkip ≤ (moves column).matched + toMatch then hits column
    else start ≤ column := by
  simp only [reach] at short
  split
  next matched =>
    by_contra missed
    have awful := sound.miss column missed
    have real := sound.live column inside ((sound.entered column below).resolve_left missed)
    rw [awful, Cell.awful] at matched
    omega
  next skipped =>
    by_contra inFront
    have awful := sound.dead column (Nat.not_le.1 inFront)
    have real := sound.hit column inside ((sound.entered column below).resolve_right inFront)
    rw [Cell.awful] at awful
    omega

/-- The move in front of a match leads to a real score. -/
theorem Sound.move_of_match {column : Nat} {place : Place}
    (sound : Sound places.length hits start before) (left : Moves) (below : start ≤ column + 1)
    (inside : column ≤ places.length) (short : places.length < reach)
    (modest : 0 ≤ place.bonus ∧ place.bonus ≤ 16)
    (same : agrees sensitive p place.char = true) :
    if (Moves.next sensitive p place (before column) left).matchedAfterMatch then hits column
    else start ≤ column := by
  have nearMatch : -4 ≤ max place.bonus 4 ∧ max place.bonus 4 ≤ 16 := by omega
  have nearSkip : -4 ≤ place.bonus ∧ place.bonus ≤ 16 := by omega
  simpa only [Moves.next, Moves.nextWith, same, Bool.true_and, decide_eq_true_eq] using
    sound.chosen below inside short nearMatch nearSkip

/-- The move in front of a skipped place leads to a real score. -/
theorem Sound.move_of_skip {moves : Nat → Moves} {column : Nat}
    (sound : Sound places.length hits start moves) (sensitive : Bool) (p : Char) (place : Place)
    (other : Moves) (below : start ≤ column + 1)
    (inside : column ≤ places.length) (short : places.length < reach) :
    if (Moves.next sensitive p place other (moves column)).skippedAfterMatch then hits column
    else start ≤ column := by
  have nearMatch : (-4 : Int) ≤ -4 ∧ (-4 : Int) ≤ 16 := by decide
  have nearSkip : (-4 : Int) ≤ -1 ∧ (-1 : Int) ≤ 16 := by decide
  simpa only [Moves.next, Moves.nextWith, decide_eq_true_eq, Int.sub_eq_add_neg] using
    sound.chosen below inside short nearMatch nearSkip

end Row

/-- A pattern with its leftmost columns in a text. Where two neighbours of the pattern and two of
the text stand under each other, the four do not all agree. -/
structure Aligned (sensitive : Bool) (places : List Place) (pairs : List (Char × Nat)) : Prop where
  placed : ∀ (row : Nat) (p : Char) (first : Nat), pairs[row]? = some (p, first) →
    ∃ place : Place, places[first]? = some place ∧ agrees sensitive p place.char = true
  ascending : ∀ (row : Nat) (p : Char) (first : Nat) (q : Char) (next : Nat),
    pairs[row]? = some (p, first) → pairs[row + 1]? = some (q, next) → first < next
  apart : ∀ (row : Nat) (p : Char) (first : Nat) (q : Char) (next : Nat),
    pairs[row]? = some (p, first) → pairs[row + 1]? = some (q, next) →
      ∀ (column : Nat) (one other : Place), places[column]? = some one →
        places[column + 1]? = some other → agrees sensitive p one.char = true →
          agrees sensitive q one.char = true → agrees sensitive q other.char = false
  numbered : ∀ (column : Nat) (place : Place), places[column]? = some place →
    place.column = column
  modest : ∀ place ∈ places, 0 ≤ place.bonus ∧ place.bonus ≤ 16
  short : places.length < reach

section Table

variable (sensitive : Bool) (places : List Place) (pairs : List (Char × Nat))

/-- The rows of all pattern characters. -/
def table : Nat → Nat → Moves
  | 0 => fun _ => .above
  | row + 1 =>
      match pairs[row]? with
      | none => fun _ => .nowhere
      | some (p, first) => .row sensitive places p first (table row)

/-- The columns of a row in front of which its pattern character stands. -/
def hitsOf : Nat → Nat → Prop
  | 0 => fun _ => False
  | row + 1 =>
      match pairs[row]? with
      | none => fun _ => False
      | some (p, first) => Hits sensitive places p first

/-- The column from which on a row can have skipped its pattern character. -/
def startOf : Nat → Nat
  | 0 => 0
  | row + 1 =>
      match pairs[row]? with
      | none => 0
      | some (_, first) => first + 2

variable {sensitive places pairs}

/-- A row is only entered behind the leftmost place of the row above. -/
theorem Aligned.below (aligned : Aligned sensitive places pairs) {row : Nat} {p : Char}
    {first : Nat} (found : pairs[row]? = some (p, first)) : startOf pairs row ≤ first + 1 := by
  cases row with
  | zero => exact Nat.zero_le _
  | succ row =>
      have inside := (List.getElem?_eq_some_iff.1 found).1
      obtain ⟨⟨q, before⟩, held⟩ : ∃ pair, pairs[row]? = some pair :=
        ⟨_, List.getElem?_eq_getElem (Nat.lt_of_succ_lt inside)⟩
      have ascending := aligned.ascending row q before p first held found
      simp only [startOf, held]
      omega

theorem Aligned.sound (aligned : Aligned sensitive places pairs) (row : Nat)
    (inside : row ≤ pairs.length) :
    Sound places.length (hitsOf sensitive places pairs row) (startOf pairs row)
      (table sensitive places pairs row) := by
  induction row with
  | zero => exact sound_above places.length
  | succ row inductionHypothesis =>
      obtain ⟨⟨p, first⟩, found⟩ : ∃ pair, pairs[row]? = some pair :=
        ⟨_, List.getElem?_eq_getElem inside⟩
      have sound := (inductionHypothesis (Nat.le_of_succ_le inside)).row (aligned.below found)
        (aligned.placed row p first found) fun place member => (aligned.modest place member).1
      simpa only [hitsOf, startOf, table, found] using sound

end Table

end Promptline.Fuzzy
