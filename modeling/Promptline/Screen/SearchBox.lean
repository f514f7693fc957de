/-
This file defines what a history search shows: a prompt with its modes and its query, and the rows
around the selected match.
-/

import Promptline.History.Search

namespace Promptline

structure SearchRow where
  command : Text
  directory : Text
  positions : List Nat
  selected : Bool
  deriving DecidableEq, Repr

structure SearchBox where
  rows : List SearchRow
  total : Nat
  /-- The index of the first row among all matches. -/
  offset : Nat
  deriving DecidableEq, Repr

namespace HistorySearch

/-- The prompt up to the query. -/
def promptHead (search : HistorySearch) : Text :=
  Text.of "(reverse-i-search)[" ++ search.filter.label ++ Text.of "/" ++ search.sort.label ++
    Text.of "]`"

/-- The selected command stands behind the query. -/
def prompt (search : HistorySearch) : Text :=
  search.promptHead ++ search.query ++ Text.of "': " ++ search.selectedCommand?.getD []

/-- The row of a match with its place among all matches. -/
def row? (search : HistorySearch) (place : Nat) (found : HistoryMatch) : Option SearchRow :=
  (search.items[found.index]?).map fun item =>
    ⟨item.command, item.directory, found.positions, place = search.selected⟩

def box (search : HistorySearch) (height : Nat) : SearchBox :=
  if search.active then
    let window := search.window height
    let shown := (search.matched.take window.stop).drop window.start
    ⟨(shown.mapIdx fun index found => search.row? (window.start + index) found).filterMap id,
      search.matched.length, window.start⟩
  else ⟨[], 0, 0⟩

end HistorySearch

end Promptline
