/-
This file follows the rows of a search while its query grows and shrinks. A longer query lists fewer
items, also where its first capital tells the cases apart, and a shorter one lists them again.
-/

import Promptline.Proofs.History.Listing

namespace Promptline

namespace Fuzzy

/-- A text that contains a pattern with the cases told apart contains it without as well. -/
theorem sublist_fold {fine : Bool} {pattern text : Text}
    (found : (pattern.map (fold fine)).Sublist (text.map (fold fine))) {rough : Bool}
    (coarser : rough = true → fine = true) :
    (pattern.map (fold rough)).Sublist (text.map (fold rough)) := by
  cases fine with
  | false =>
      have same : rough = false := Bool.eq_false_iff.2 fun told => Bool.false_ne_true (coarser told)
      rw [same]
      exact found
  | true =>
      have exact (text : Text) : text.map (fold true) = text := List.map_id' text
      rw [exact, exact] at found
      exact found.map (fold rough)

/-- A pattern that occurs in a text occurs there up to every place. -/
theorem Occurs.of_append {front behind text : Text} (found : Occurs (front ++ behind) text) :
    Occurs front text := by
  have capital : isCaseSensitive front = true → isCaseSensitive (front ++ behind) = true := by
    intro told
    rw [isCaseSensitive, List.any_append, ← isCaseSensitive, told, Bool.true_or]
  have longer : (front.map (fold (isCaseSensitive (front ++ behind)))).Sublist
      (text.map (fold (isCaseSensitive (front ++ behind)))) := by
    rw [Occurs, List.map_append] at found
    exact (List.sublist_append_left _ _).trans found
  exact sublist_fold longer capital

end Fuzzy

namespace HistorySearch

variable {search : HistorySearch}

/-- The rows are those of the items that the search lists now. -/
def Current (search : HistorySearch) : Prop :=
  (search.matched.map HistoryMatch.row).Perm
    (search.listed.map fun (item, index) => (index, item.command))

/-- An active search has computed its matches since the last change. -/
theorem Reachable.current (reachable : Reachable search) (active : search.active = true) :
    search.Current := by
  induction reachable with
  | idle filter sort => exact absurd active Bool.false_ne_true
  | @perform search reachable operation inductionHypothesis =>
      rcases search.perform_cases operation with ⟨changed, performed⟩ | performed |
        ⟨selected, performed, _⟩
      · rw [performed]
        exact changed.rows_recompute
      · rw [performed] at active
        exact absurd active Bool.false_ne_true
      · rw [performed] at active ⊢
        exact inductionHypothesis active

theorem Current.mem_iff (current : search.Current) (index : Nat) :
    index ∈ search.matched.map HistoryMatch.index ↔ search.Lists index := by
  have indices := current.map Prod.fst
  rw [List.map_map, List.map_map] at indices
  have same : search.matched.map HistoryMatch.index =
    search.matched.map (Prod.fst ∘ HistoryMatch.row) := rfl
  rw [same, indices.mem_iff, lists_iff]
  simp

/-- What is listed for a longer query is listed for a shorter one. -/
theorem Lists.of_append {front behind : Text} {index : Nat}
    (listed : { search with query := front ++ behind }.Lists index) :
    { search with query := front }.Lists index := by
  obtain ⟨item, held, newest, inside, found⟩ := listed
  exact ⟨item, held, newest, inside, found.of_append⟩

/-- While a search is active, a character that is typed takes rows away and adds none, and when it
is erased again the rows of the same items are back. -/
theorem Reachable.indices_type_erase (reachable : Reachable search)
    (active : search.active = true) (c : Char) :
    let typed := search.perform (.type c)
    typed.matched.map HistoryMatch.index ⊆ search.matched.map HistoryMatch.index ∧
      ∃ erased, typed.erase? = some erased ∧ typed.perform .erase = erased ∧
        (erased.matched.map HistoryMatch.index).Perm (search.matched.map HistoryMatch.index) := by
  intro typed
  have before : search.Current := reachable.current active
  have during : typed.Current := (reachable.perform (.type c)).current active
  constructor
  · intro index member
    apply (before.mem_iff index).2
    have listed : { search with query := search.query ++ [c] }.Lists index :=
      (during.mem_iff index).1 member
    exact listed.of_append
  · have written : typed.query = search.query ++ [c] := rfl
    have erasable : typed.erase? = some (typed.setQuery search.query) := by
      rw [erase?, written, if_neg (List.concat_ne_nil c search.query), List.dropLast_concat]
    have performed : typed.perform .erase = typed.setQuery search.query := by
      rw [HistorySearch.perform, erasable, Option.getD_some]
    refine ⟨_, erasable, performed, ?_⟩
    -- the query is the old one again, and so are the items that are listed for it
    have after : (typed.setQuery search.query).Current := rows_recompute _
    have rows := after.trans before.symm
    have indices := rows.map Prod.fst
    rwa [List.map_map, List.map_map] at indices

/-- The capital tells the cases apart and so takes the row of the small letters away. -/
theorem indices_type_erase_of_capital :
    let items : List HistoryItem :=
      [⟨Text.of "gs", Text.of "/"⟩, ⟨Text.of "gitS", Text.of "/"⟩, ⟨Text.of "ls", Text.of "/"⟩]
    let search := ((idle .all .recent).perform (.enter items (Text.of "/"))).perform (.type 'g')
    let typed := search.perform (.type 'S')
    search.Reachable ∧ search.active = true ∧
      search.matched.map HistoryMatch.index = [0, 1] ∧
      typed.matched.map HistoryMatch.index = [1] ∧
      typed.matched.map HistoryMatch.index ⊆ search.matched.map HistoryMatch.index ∧
      ((typed.perform .erase).matched.map HistoryMatch.index).Perm
        (search.matched.map HistoryMatch.index) := by
  intro items search typed
  have reachable : search.Reachable := .perform (.perform (.idle .all .recent) _) _
  have active : search.active = true := by decide +kernel
  obtain ⟨fewer, erased, _, performed, back⟩ := reachable.indices_type_erase active 'S'
  refine ⟨reachable, active, ?_, ?_, fewer, ?_⟩
  · decide +kernel
  · decide +kernel
  · rw [performed]
    exact back

end HistorySearch

end Promptline
