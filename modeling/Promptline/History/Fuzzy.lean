/-
This file scores how well a pattern matches a text as a subsequence. The score comes from a matrix
with a row for each pattern character, and good places for a match earn a bonus. The cells belong to
the matcher and outlive a match: the next one empties only some of them.
-/

import Promptline.Text.Basic

namespace Promptline.Fuzzy

/-- The class of a character and of the one before it decide on the bonus of a place. -/
inductive PlaceClass where
  | start
  | hardSeparator
  | softSeparator
  | number
  | upper
  | lower
  deriving DecidableEq, Repr

namespace PlaceClass

/-- Separators are ASCII, and every character without another class counts as lower case. -/
def ofChar (c : Char) : PlaceClass :=
  if c = '\x00' then start
  else if " /\\|()[]\x7b\x7d".toList.contains c then hardSeparator
  else if ('!' ≤ c ∧ c ≤ '\'') ∨ ('*' ≤ c ∧ c ≤ '.') ∨ (':' ≤ c ∧ c ≤ '@') ∨
      ('^' ≤ c ∧ c ≤ '\x60') ∨ c = '~' then softSeparator
  else if c.isDigit then number
  else if c.isUpper then upper
  else lower

/-- Word starts are good places, after a hard separator more than after a soft one. -/
def bonus (before here : PlaceClass) : Int :=
  match before, here with
  | start, _ | hardSeparator, _ => 8
  | softSeparator, _ => 7
  | lower, upper | number, upper => 6
  | _, _ => 0

end PlaceClass

/-- A character of the text with its column and the bonus of its place. -/
structure Place where
  column : Nat
  char : Char
  bonus : Int
  deriving DecidableEq, Repr

/-- The places from a column on, behind a character of the given class. -/
def placesFrom (column : Nat) (before : PlaceClass) : Text → List Place
  | [] => []
  | c :: rest =>
      let here := PlaceClass.ofChar c
      ⟨column, c, before.bonus here⟩ :: placesFrom (column + 1) here rest

/-- The bonus of the first place counts twice. -/
def places (text : Text) : List Place :=
  match placesFrom 0 .start text with
  | [] => []
  | first :: rest => { first with bonus := 2 * first.bonus } :: rest

/-- An upper case ASCII letter in the pattern makes the match case sensitive. -/
def isCaseSensitive (pattern : Text) : Bool := pattern.any Char.isUpper

/-- Case can only be ignored between ASCII letters. -/
def agrees (sensitive : Bool) (a b : Char) : Bool :=
  if sensitive then a = b else a.toLower = b.toLower

/-- The leftmost columns at which the pattern can be found in order. -/
def leftmost? (sensitive : Bool) (column : Nat) : Text → Text → Option (List Nat)
  | [], _ => some []
  | _ :: _, [] => none
  | p :: pattern, c :: text =>
      if agrees sensitive p c then
        (leftmost? sensitive (column + 1) pattern text).map (column :: ·)
      else leftmost? sensitive (column + 1) (p :: pattern) text

/-- A cell holds the best score of a match that ends here and of one that skips this place. The
moves say whether the place before was matched. -/
structure Cell where
  matched : Int
  matchedAfterMatch : Bool
  skipped : Int
  skippedAfterMatch : Bool
  bonus : Int
  deriving DecidableEq, Repr

namespace Cell

/-- The score of what cannot be. -/
def awful : Int := -32768

def empty : Cell := ⟨awful, false, awful, false, 0⟩

end Cell

/-- The cells lie row after row. -/
structure Matrix where
  columns : Nat
  cells : Array Cell
  deriving DecidableEq, Repr

namespace Matrix

def cell (matrix : Matrix) (row column : Nat) : Cell :=
  (matrix.cells[row * matrix.columns + column]?).getD .empty

def modify (matrix : Matrix) (row column : Nat) (change : Cell → Cell) : Matrix :=
  { matrix with cells := matrix.cells.modify (row * matrix.columns + column) change }

def clear (matrix : Matrix) (row column : Nat) : Matrix :=
  matrix.modify row column fun _ => .empty

/-- Cells that fit into the new size keep their content wherever they come to lie. -/
def resized (cells : Array Cell) (rows columns : Nat) : Matrix :=
  let size := rows * columns
  ⟨columns, cells.take size ++ Array.replicate (size - cells.size) .empty⟩

/-- A match empties the first cell, the first row, and in every other row the cell before the
leftmost place. Skipping in the first row costs one. -/
def prepare (matrix : Matrix) (leftmost : List Nat) : Matrix :=
  let rows := (leftmost.zipIdx 1).foldl (fun matrix (column, row) => matrix.clear row column)
    (matrix.clear 0 0)
  (List.range matrix.columns).foldl (fun matrix column =>
    matrix.modify 0 column fun _ => { Cell.empty with skipped := -1 }) rows

/-- The score of a place for a pattern character. A match in a row of matches keeps the best bonus
of the row, and that bonus is left in the cell to the left. -/
def score (sensitive : Bool) (row : Nat) (p : Char) (matrix : Matrix) (place : Place) : Matrix :=
  let column := place.column
  let left := matrix.cell (row + 1) column
  let before := matrix.cell row column
  let matched :=
    if agrees sensitive p place.char then
      let run := max left.bonus (max place.bonus 4)
      let afterMatch := before.matched + run
      let afterSkip := before.skipped + place.bonus
      let worth := if p = place.char then 16 else 14
      (matrix.modify (row + 1) column fun cell => { cell with bonus := run }).modify
        (row + 1) (column + 1) fun cell =>
          if afterSkip ≤ afterMatch then
            { cell with matched := afterMatch + worth, matchedAfterMatch := true }
          else { cell with matched := afterSkip + worth, matchedAfterMatch := false }
    else
      matrix.modify (row + 1) (column + 1) fun cell =>
        { cell with matched := Cell.awful, matchedAfterMatch := false, bonus := 0 }
  let open_ := left.matched - 4
  let extend := left.skipped - 1
  matched.modify (row + 1) (column + 1) fun cell =>
    { cell with skipped := max open_ extend, skippedAfterMatch := decide (extend ≤ open_) }

/-- Every row is filled from its leftmost place on. -/
def fill (sensitive : Bool) (places : List Place) (pattern : Text) (leftmost : List Nat)
    (matrix : Matrix) : Matrix :=
  ((pattern.zip leftmost).zipIdx).foldl (fun matrix ((p, first), row) =>
    (places.drop first).foldl (score sensitive row p) matrix) matrix

/-- The last column with the greatest score of the row, and that score. -/
def best (matrix : Matrix) (row first : Nat) : Nat × Int :=
  ((List.range matrix.columns).drop (first + 1)).foldl (fun (column, score) next =>
    let here := (matrix.cell row next).matched
    if score ≤ here then (next, here) else (column, score))
    (first, (matrix.cell row first).matched)

/-- The columns of the matched places from the last to the first, read from the moves. -/
def trace (matrix : Matrix) (first : Nat) (row : Nat) (onMatch afterMatch : Bool) :
    Nat → List Nat
  | 0 => []
  | column + 1 =>
      if row = 0 ∨ column + 1 ≤ first then []
      else
        let cell := matrix.cell row (column + 1)
        let move := if onMatch then cell.matchedAfterMatch else cell.skippedAfterMatch
        let rest := trace matrix first (if onMatch then row - 1 else row) move move column
        if afterMatch then column :: rest else rest

end Matrix

/-- A match with its score and the matched positions. -/
structure Score where
  value : Int
  positions : List Nat
  deriving DecidableEq, Repr

/-- The score of a pattern that occurs in the text, and the cells that the match leaves behind. -/
def scoreWith (cells : Array Cell) (text pattern : Text) : Array Cell × Option Score :=
  let sensitive := isCaseSensitive pattern
  match leftmost? sensitive 0 pattern text with
  | none => (cells, none)
  | some leftmost =>
      let matrix := ((Matrix.resized cells (pattern.length + 1) (text.length + 1)).prepare
        leftmost).fill sensitive (places text) pattern leftmost
      let (column, value) := matrix.best pattern.length (leftmost.getLastD 0)
      let positions := (matrix.trace (leftmost.headD 0) pattern.length true true column).reverse
      (matrix.cells, some ⟨value, positions⟩)

end Promptline.Fuzzy
