/-
This file follows the selection of a history search. Whatever the search has seen, the selection
points to a match if there is one, and a match points to an item.
-/

import Promptline.Proofs.History.Listing

namespace Promptline

namespace HistorySearch

/-- The selection points to a match, and every match to an item with its command. -/
structure Points (search : HistorySearch) : Prop where
  chosen : search.matched = [] ∨ search.selected < search.matched.length
  known : ∀ found ∈ search.matched,
    ∃ item, search.items[found.index]? = some item ∧ item.command = found.command

theorem points_of_unmatched {search : HistorySearch} (nothing : search.matched = []) :
    search.Points where
  chosen := .inl nothing
  known := by simp [nothing]

theorem points_recompute (search : HistorySearch) : search.recompute.Points where
  chosen := by
    change search.recompute.matched = [] ∨ 0 < search.recompute.matched.length
    rw [List.length_pos_iff]
    exact Decidable.em _
  known := fun _ member => item_of_mem_recompute member

/-- The selection moves within the matches, and it starts anew with them. -/
theorem Points.perform {search : HistorySearch} (points : search.Points)
    (operation : SearchOperation) : (search.perform operation).Points := by
  rcases search.perform_cases operation with ⟨changed, performed⟩ | performed |
    ⟨selected, performed, near⟩
  · rw [performed]
    exact points_recompute changed
  · rw [performed]
    exact points_of_unmatched rfl
  · rw [performed]
    refine ⟨points.chosen.imp_right fun inside => ?_, points.known⟩
    exact near.elim (fun less => Nat.lt_of_le_of_lt less inside) id

theorem Reachable.points {search : HistorySearch} (reachable : Reachable search) :
    search.Points := by
  induction reachable with
  | idle filter sort => exact points_of_unmatched rfl
  | perform _ operation inductionHypothesis => exact inductionHypothesis.perform operation

/-- The selected match has the command of its item, and without a match nothing is selected. -/
theorem Points.selectedCommand?_eq {search : HistorySearch} (points : search.Points) :
    search.matched = [] ∧ search.selectedCommand? = none ∨
      ∃ found item, search.matched[search.selected]? = some found ∧
        search.items[found.index]? = some item ∧ item.command = found.command ∧
        search.selectedCommand? = some found.command := by
  rcases points.chosen with nothing | inside
  · exact .inl ⟨nothing, by simp [selectedCommand?, nothing]⟩
  · have there := List.getElem?_eq_getElem inside
    obtain ⟨item, held, same⟩ := points.known _ (List.getElem_mem inside)
    refine .inr ⟨_, item, there, held, same, ?_⟩
    simp only [selectedCommand?, there, Option.map_some]

end HistorySearch

end Promptline
