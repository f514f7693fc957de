/-
This file arranges candidates in a box. Columns are filled from top to bottom, and candidates that
do not fit are on further pages.
-/

import Promptline.Completion.Candidate
import Promptline.Text.Width

namespace Promptline

structure BoxCell where
  index : Nat
  column : Nat
  row : Nat
  label : Text
  description? : Option Text
  selected : Bool
  deriving DecidableEq, Repr

structure CompletionBox where
  itemWidth : Nat
  columns : Nat
  /-- The rows that the page uses. -/
  rows : Nat
  page : Nat
  pageCount : Nat
  cells : List BoxCell
  deriving DecidableEq, Repr

/-- Terminal columns are words of 16 bits. -/
def screenWord (n : Nat) : Nat := n % 65536

namespace CompletionBox

def empty : CompletionBox := ⟨0, 0, 0, 0, 0, []⟩

/-- The widest label and a blank behind it, within the given bounds. -/
def itemWidthOf (candidates : List Candidate) (width minimum : Nat) : Nat :=
  let widest := candidates.foldl (fun widest candidate => max widest candidate.label.width) 0
  screenWord (max (min (max (widest + 1) minimum) width) 1)

/-- A description, or room for all candidates in one column, makes it a single column. -/
def columnsOf (candidates : List Candidate) (width height itemWidth : Nat) : Nat :=
  if candidates.any Candidate.hasDescription || candidates.length ≤ height then 1
  else max (width / itemWidth) 1

/-- The place of a candidate, counted from the first one of its page. -/
def cellOf (height : Nat) (selected? : Option Nat) (index place : Nat) (candidate : Candidate) :
    BoxCell where
  index
  column := screenWord (place / height)
  row := screenWord (place % height)
  label := candidate.label
  description? := candidate.description?.bind Candidate.presence
  selected := selected? = some index

/-- The page with the selected candidate is shown, and the first one if there is none. -/
def arrange (candidates : List Candidate) (selected? : Option Nat) (width height minimum : Nat) :
    CompletionBox :=
  if candidates = [] ∨ width = 0 ∨ height = 0 then empty
  else
    let itemWidth := itemWidthOf candidates width minimum
    let columns := columnsOf candidates width height itemWidth
    let size := height * columns
    let page :=
      match selected? with
      | none => 0
      | some selected => min selected (candidates.length - 1) / size
    let first := page * size
    let shown := (candidates.drop first).take size
    { itemWidth, columns, rows := screenWord (min shown.length height), page,
      pageCount := (candidates.length + size - 1) / size,
      cells := shown.mapIdx fun place candidate =>
        cellOf height selected? (first + place) place candidate }

end CompletionBox

end Promptline
