/-
This file names the operations of a history search. Most of them change what is searched for and
compute the matches anew, and the others move the selection or end the search.
-/

import Promptline.History.Search

namespace Promptline

/-- An operation on a history search. -/
inductive SearchOperation where
  | enter (items : List HistoryItem) (directory : Text)
  | type (c : Char)
  | erase
  | setQuery (query : Text)
  | setFilter (filter : HistoryFilter)
  | setSort (sort : HistorySort)
  | cycleFilter
  | cycleSort
  | recompute
  | up
  | down
  | accept
  | cancel
  deriving DecidableEq, Repr

/-- What a search looks through, what it looks for and how it orders what it finds. -/
structure SearchTerms where
  items : List HistoryItem
  directory : Text
  query : Text
  filter : HistoryFilter
  sort : HistorySort
  deriving DecidableEq, Repr

/-- A new search starts without a query, and the end of a search drops it. The filter and the order
stay from search to search. -/
def SearchTerms.after (terms : SearchTerms) : SearchOperation → SearchTerms
  | .enter items directory => { terms with items, directory, query := [] }
  | .type c => { terms with query := terms.query ++ [c] }
  | .erase => { terms with query := terms.query.dropLast }
  | .setQuery query => { terms with query }
  | .setFilter filter => { terms with filter }
  | .setSort sort => { terms with sort }
  | .cycleFilter => { terms with filter := terms.filter.next }
  | .cycleSort => { terms with sort := terms.sort.next }
  | .recompute | .up | .down => terms
  | .accept | .cancel => { terms with query := [] }

namespace HistorySearch

def terms (search : HistorySearch) : SearchTerms :=
  ⟨search.items, search.directory, search.query, search.filter, search.sort⟩

/-- An operation that finds nothing to do leaves the search as it is. -/
def perform (search : HistorySearch) : SearchOperation → HistorySearch
  | .enter items directory => search.enter items directory
  | .type c => search.type c
  | .erase => search.erase?.getD search
  | .setQuery query => search.setQuery query
  | .setFilter filter => search.setFilter filter
  | .setSort sort => search.setSort sort
  | .cycleFilter => search.cycleFilter
  | .cycleSort => search.cycleSort
  | .recompute => search.recompute
  | .up => search.up?.getD search
  | .down => search.down?.getD search
  | .accept => search.accept.1
  | .cancel => search.cancel

/-- The operation computes the matches anew. An empty query has nothing to erase. -/
def recomputes (search : HistorySearch) : SearchOperation → Bool
  | .erase => search.query ≠ []
  | .up | .down | .accept | .cancel => false
  | _ => true

/-- An operation changes what is searched for and not the cells, and then computes the matches. -/
theorem perform_of_recomputes {search : HistorySearch} {operation : SearchOperation}
    (anew : search.recomputes operation = true) :
    ∃ changed : HistorySearch, changed.cells = search.cells ∧
      search.perform operation = changed.recompute := by
  cases operation with
  | erase =>
      have typed : search.query ≠ [] := by simpa [recomputes] using anew
      refine ⟨{ search with query := search.query.dropLast }, rfl, ?_⟩
      simp only [perform, erase?, if_neg typed, Option.getD_some, setQuery]
  | up | down | accept | cancel => exact absurd anew Bool.false_ne_true
  | enter items directory =>
      exact ⟨{ search with items, directory, query := [], active := true }, rfl, rfl⟩
  | type c => exact ⟨{ search with query := search.query ++ [c] }, rfl, rfl⟩
  | setQuery query => exact ⟨{ search with query }, rfl, rfl⟩
  | setFilter filter => exact ⟨{ search with filter }, rfl, rfl⟩
  | setSort sort => exact ⟨{ search with sort }, rfl, rfl⟩
  | cycleFilter => exact ⟨{ search with filter := search.filter.next }, rfl, rfl⟩
  | cycleSort => exact ⟨{ search with sort := search.sort.next }, rfl, rfl⟩
  | recompute => exact ⟨search, rfl, rfl⟩

/-- The other operations end the search or move the selection. -/
theorem perform_of_not_recomputes {search : HistorySearch} {operation : SearchOperation}
    (kept : search.recomputes operation = false) :
    search.perform operation = search.cancel ∨
      ∃ selected, search.perform operation = { search with selected } ∧
        (selected ≤ search.selected ∨ selected < search.matched.length) := by
  have same : ∃ selected, search = { search with selected } ∧
      (selected ≤ search.selected ∨ selected < search.matched.length) :=
    ⟨search.selected, rfl, .inl (Nat.le_refl _)⟩
  cases operation with
  | erase =>
      have untyped : search.query = [] := by simpa [recomputes] using kept
      simp only [perform, erase?, if_pos untyped, Option.getD_none]
      exact .inr same
  | up =>
      simp only [perform, up?]
      split
      · exact .inr same
      · exact .inr ⟨search.selected - 1, rfl, .inl (Nat.sub_le _ 1)⟩
  | down =>
      simp only [perform, down?]
      split
      · exact .inr same
      next further => exact .inr ⟨search.selected + 1, rfl, .inr (Nat.not_le.1 further)⟩
  | accept | cancel => exact .inl rfl
  | _ => exact absurd kept.symm Bool.false_ne_true

/-- Without new matches the cells stay. -/
theorem cells_perform_of_not_recomputes {search : HistorySearch} {operation : SearchOperation}
    (kept : search.recomputes operation = false) :
    (search.perform operation).cells = search.cells := by
  rcases perform_of_not_recomputes kept with performed | ⟨selected, performed, _⟩
  · rw [performed, cancel]
  · rw [performed]

/-- Each operation changes its own part of what is searched for and no other. -/
theorem terms_perform (search : HistorySearch) (operation : SearchOperation) :
    (search.perform operation).terms = search.terms.after operation := by
  cases operation with
  | erase =>
      simp only [perform, erase?]
      split
      next untyped => simp [terms, SearchTerms.after, untyped]
      · rfl
  | up =>
      simp only [perform, up?]
      split <;> rfl
  | down =>
      simp only [perform, down?]
      split <;> rfl
  | _ => rfl

/-- An operation computes the matches anew, ends the search or moves the selection. -/
theorem perform_cases (search : HistorySearch) (operation : SearchOperation) :
    (∃ changed : HistorySearch, search.perform operation = changed.recompute) ∨
      search.perform operation = search.cancel ∨
      ∃ selected, search.perform operation = { search with selected } ∧
        (selected ≤ search.selected ∨ selected < search.matched.length) := by
  cases anew : search.recomputes operation with
  | true =>
      obtain ⟨changed, _, performed⟩ := perform_of_recomputes anew
      exact .inl ⟨changed, performed⟩
  | false => exact .inr (perform_of_not_recomputes anew)

/-- A reachable search is an idle one that has seen any operations since. -/
inductive Reachable : HistorySearch → Prop where
  | idle (filter : HistoryFilter) (sort : HistorySort) : Reachable (idle filter sort)
  | perform {search : HistorySearch} (reachable : Reachable search)
      (operation : SearchOperation) : Reachable (search.perform operation)

/-- The last operation on a reachable search has computed the matches. -/
inductive Computed : HistorySearch → Prop where
  | perform {search : HistorySearch} (reachable : Reachable search) {operation : SearchOperation}
      (anew : search.recomputes operation = true) : Computed (search.perform operation)

end HistorySearch

end Promptline
