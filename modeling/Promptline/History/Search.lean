/-
This file defines the incremental search through the history. Every change of the query, the filter
or the order computes the matches anew and selects the first one.
-/

import Promptline.History.Fuzzy
import Promptline.History.Item
import Promptline.History.Window

namespace Promptline

/-- A match points to its item and keeps the positions that the query has matched. -/
structure HistoryMatch where
  index : Nat
  command : Text
  score : Int
  positions : List Nat
  deriving DecidableEq, Repr

structure HistorySearch where
  /-- The newest item comes first. -/
  items : List HistoryItem
  directory : Text
  query : Text
  filter : HistoryFilter
  sort : HistorySort
  matched : List HistoryMatch
  selected : Nat
  active : Bool
  /-- The cells of the score matrix stay from match to match. -/
  cells : Array Fuzzy.Cell
  deriving DecidableEq, Repr

namespace HistorySearch

def idle (filter : HistoryFilter) (sort : HistorySort) : HistorySearch :=
  ⟨[], [], [], filter, sort, [], 0, false, #[]⟩

/-- The newest item of each command, with its index. -/
def newest (seen : List Text) : List (HistoryItem × Nat) → List (HistoryItem × Nat)
  | [] => []
  | (item, index) :: rest =>
      if seen.contains item.command then newest seen rest
      else (item, index) :: newest (item.command :: seen) rest

/-- Older items of a command are dropped before the filter is asked. -/
def eligible (search : HistorySearch) : List (HistoryItem × Nat) :=
  (newest [] search.items.zipIdx).filter fun (item, _) =>
    search.filter.passes search.directory item

/-- The items that the query occurs in, in their order. -/
def scoreAll (query : Text) (cells : Array Fuzzy.Cell) :
    List (HistoryItem × Nat) → Array Fuzzy.Cell × List HistoryMatch
  | [] => (cells, [])
  | (item, index) :: rest =>
      let (cells, score?) := Fuzzy.scoreWith cells item.command query
      let (cells, others) := scoreAll query cells rest
      match score? with
      | none => (cells, others)
      | some score => (cells, ⟨index, item.command, score.value, score.positions⟩ :: others)

/-- An empty query matches every item without a score. -/
def matchesOf (search : HistorySearch) : Array Fuzzy.Cell × List HistoryMatch :=
  if search.query = [] then
    (search.cells, search.eligible.map fun (item, index) => ⟨index, item.command, 0, []⟩)
  else scoreAll search.query search.cells search.eligible

/-- Items of equal rank stay in their order, which is from the newest to the oldest. -/
def ordered (sort : HistorySort) (found : List HistoryMatch) : List HistoryMatch :=
  match sort with
  | .recent => found
  | .relevance => found.mergeSort fun a b => b.score ≤ a.score
  | .alphabetical => found.mergeSort fun a b => a.command.le b.command

def recompute (search : HistorySearch) : HistorySearch :=
  let (cells, found) := search.matchesOf
  { search with matched := ordered search.sort found, selected := 0, cells }

/-- A search starts with an empty query. -/
def enter (search : HistorySearch) (items : List HistoryItem) (directory : Text) : HistorySearch :=
  { search with items, directory, query := [], active := true }.recompute

def setQuery (search : HistorySearch) (query : Text) : HistorySearch :=
  { search with query }.recompute

def type (search : HistorySearch) (c : Char) : HistorySearch :=
  search.setQuery (search.query ++ [c])

/-- An empty query has nothing to erase. -/
def erase? (search : HistorySearch) : Option HistorySearch :=
  if search.query = [] then none else some (search.setQuery search.query.dropLast)

def setFilter (search : HistorySearch) (filter : HistoryFilter) : HistorySearch :=
  { search with filter }.recompute

def setSort (search : HistorySearch) (sort : HistorySort) : HistorySearch :=
  { search with sort }.recompute

def cycleFilter (search : HistorySearch) : HistorySearch := search.setFilter search.filter.next

def cycleSort (search : HistorySearch) : HistorySearch := search.setSort search.sort.next

def up? (search : HistorySearch) : Option HistorySearch :=
  if search.selected = 0 then none else some { search with selected := search.selected - 1 }

def down? (search : HistorySearch) : Option HistorySearch :=
  if search.matched.length ≤ search.selected + 1 then none
  else some { search with selected := search.selected + 1 }

def selectedCommand? (search : HistorySearch) : Option Text :=
  (search.matched[search.selected]?).map HistoryMatch.command

/-- The search ends without a result. -/
def cancel (search : HistorySearch) : HistorySearch :=
  { search with active := false, query := [], matched := [], selected := 0 }

/-- The search ends with the selected command, if anything matched. -/
def accept (search : HistorySearch) : HistorySearch × Option Text :=
  (search.cancel, search.selectedCommand?)

/-- The rows of a box of the given height. -/
def window (search : HistorySearch) (height : Nat) : Window :=
  Window.around search.matched.length search.selected height

end HistorySearch

end Promptline
