/-
This file says what the box of a history search shows. The rows are the matches in a window around
the selected one, and the window follows the selection by one row at most.
-/

import Promptline.Proofs.History.Selection
import Promptline.Proofs.Screen.Paging
import Promptline.Screen.SearchBox

namespace Promptline

namespace Window

/-- The window holds the selected position. -/
theorem around_contains {total selected height : Nat} (inside : selected < total)
    (high : 0 < height) :
    (around total selected height).start ≤ selected ∧
      selected < (around total selected height).stop := by
  simp only [around]
  rw [if_neg (by omega)]
  split
  · exact ⟨Nat.zero_le selected, inside⟩
  next short =>
    simp only
    omega

/-- The window moves with the selected position and never further. -/
theorem around_start_le {first second : Nat} (near : first ≤ second + 1) (total height : Nat) :
    (around total first height).start ≤ (around total second height).start + 1 := by
  simp only [around]
  split
  · exact Nat.zero_le _
  · split
    · exact Nat.zero_le _
    · simp only
      omega

end Window

namespace SearchBox

/-- The box shows the matches from its offset on, as many as there is room for, each with the item
that it points to. The selected match is among them, and its row alone is marked. -/
structure Shows (box : SearchBox) (search : HistorySearch) (height : Nat) : Prop where
  total : box.total = search.matched.length
  length : box.rows.length = min search.matched.length height
  inside : box.offset + box.rows.length ≤ search.matched.length
  rows : ∀ place < box.rows.length, ∃ found item,
    search.matched[box.offset + place]? = some found ∧ search.items[found.index]? = some item ∧
      box.rows[place]? = some ⟨item.command, item.directory, found.positions,
        box.offset + place = search.selected⟩
  marked : search.matched ≠ [] → ∃ row, box.rows.filter SearchRow.selected = [row] ∧
    search.selectedCommand? = some row.command

end SearchBox

namespace HistorySearch

variable {search : HistorySearch}

/-- A move changes the selection by one place at most, and nothing else. -/
theorem exists_selected_of_move {operation : SearchOperation}
    (move : operation = .up ∨ operation = .down) :
    ∃ selected, search.perform operation = { search with selected } ∧
      selected ≤ search.selected + 1 ∧ search.selected ≤ selected + 1 := by
  rcases move with rfl | rfl
  · simp only [perform, up?]
    split
    · exact ⟨search.selected, rfl, Nat.le_succ _, Nat.le_succ _⟩
    · exact ⟨search.selected - 1, rfl, by omega, by omega⟩
  · simp only [perform, down?]
    split
    · exact ⟨search.selected, rfl, Nat.le_succ _, Nat.le_succ _⟩
    · exact ⟨search.selected + 1, rfl, Nat.le_refl _, by omega⟩

/-- Where nothing matches, the selection stays at the first place. -/
theorem Reachable.selected_of_unmatched (reachable : Reachable search)
    (nothing : search.matched = []) : search.selected = 0 := by
  induction reachable with
  | idle filter sort => rfl
  | @perform search reachable operation inductionHypothesis =>
      rcases search.perform_cases operation with ⟨changed, performed⟩ | performed |
        ⟨selected, performed, moved⟩
      · rw [performed]
        rfl
      · rw [performed]
        rfl
      · rw [performed] at nothing ⊢
        have unmatched : search.matched = [] := nothing
        have first := inductionHypothesis unmatched
        rw [unmatched, List.length_nil, first] at moved
        change selected = 0
        omega

theorem box_of_active (active : search.active = true) (height : Nat) :
    search.box height =
      let window := search.window height
      ⟨(((search.matched.take window.stop).drop window.start).mapIdx fun index found =>
          search.row? (window.start + index) found).filterMap id,
        search.matched.length, window.start⟩ := by
  rw [box, if_pos active]

theorem offset_box (active : search.active = true) (height : Nat) :
    (search.box height).offset =
      (Window.around search.matched.length search.selected height).start := by
  rw [box_of_active active]
  rfl

/-- Every match of the window has a row, since it points to an item. -/
theorem Points.rows_box (points : search.Points) (active : search.active = true) (height : Nat) :
    let window := search.window height
    (search.box height).rows.map some =
      ((search.matched.take window.stop).drop window.start).mapIdx fun index found =>
        search.row? (window.start + index) found := by
  intro window
  rw [box_of_active active, List.map_filterMap_some_eq_filter_map_isSome, List.map_id]
  apply List.filter_eq_self.2
  intro row member
  obtain ⟨place, inside, rfl⟩ := List.mem_mapIdx.1 member
  have among := List.take_subset _ _ (List.drop_subset _ _ (List.getElem_mem inside))
  obtain ⟨item, held, _⟩ := points.known _ among
  rw [row?, held]
  rfl

variable {height : Nat} (points : search.Points) (active : search.active = true)

include points active

/-- The box has a row for each match of the window. -/
theorem Points.length_rows_box :
    (search.box height).rows.length = min search.matched.length height := by
  have size := Window.around_size search.matched.length search.selected height
  have reach := Window.around_stop_le search.matched.length search.selected height
  have counted := congrArg List.length (points.rows_box active height)
  rw [List.length_map, List.length_mapIdx, List.length_drop, List.length_take] at counted
  simp only [window] at counted
  omega

/-- The row at a place shows the match that stands as far behind the offset. -/
theorem Points.getElem?_rows_box {place : Nat}
    (inside : place < (search.box height).rows.length) :
    ∃ found item, search.matched[(search.box height).offset + place]? = some found ∧
      search.items[found.index]? = some item ∧ item.command = found.command ∧
      (search.box height).rows[place]? = some ⟨item.command, item.directory, found.positions,
        (search.box height).offset + place = search.selected⟩ := by
  have size := Window.around_size search.matched.length search.selected height
  have reach := Window.around_stop_le search.matched.length search.selected height
  have offset := offset_box active height
  rw [points.length_rows_box active] at inside
  have there : (search.box height).offset + place < search.matched.length := by omega
  obtain ⟨item, held, same⟩ := points.known _ (List.getElem_mem there)
  refine ⟨_, item, List.getElem?_eq_getElem there, held, same, ?_⟩
  have shown := congrArg (fun rows => rows[place]?) (points.rows_box active height)
  simp only [window, ← offset, List.getElem?_map, List.getElem?_mapIdx, List.getElem?_drop] at shown
  rw [List.getElem?_take_of_lt (by omega), List.getElem?_eq_getElem there, Option.map_some, row?,
    held, Option.map_some] at shown
  obtain ⟨row, standing, built⟩ := Option.map_eq_some_iff.1 shown
  rw [standing, Option.some.inj built]

/-- The row of the selected match is the only one that is marked. -/
theorem Points.marked_box (high : 0 < height) (filled : search.matched ≠ []) :
    ∃ row, (search.box height).rows.filter SearchRow.selected = [row] ∧
      search.selectedCommand? = some row.command := by
  have chosen : search.selected < search.matched.length := points.chosen.resolve_left filled
  have offset := offset_box active height
  have size := Window.around_size search.matched.length search.selected height
  obtain ⟨reached, below⟩ := Window.around_contains chosen high
  have counted := @Points.length_rows_box search height points active
  have inside : search.selected - (search.box height).offset < (search.box height).rows.length := by
    omega
  obtain ⟨found, item, there, held, same, shown⟩ := points.getElem?_rows_box active inside
  rw [Nat.add_sub_cancel' (by omega)] at there shown
  refine ⟨_, filter_eq_singleton shown fun place row standing => ?_, ?_⟩
  · obtain ⟨within, _⟩ := List.getElem?_eq_some_iff.1 standing
    obtain ⟨_, _, _, _, _, known⟩ := points.getElem?_rows_box active within
    obtain rfl := Option.some.inj (standing.symm.trans known)
    simp only [decide_eq_true_eq]
    omega
  · simp only [selectedCommand?, there, Option.map_some, same]

/-- The box shows the window around the selected match. -/
theorem Points.shows_box (high : 0 < height) : (search.box height).Shows search height where
  total := by rw [box_of_active active]
  length := points.length_rows_box active
  inside := by
    have size := Window.around_size search.matched.length search.selected height
    have reach := Window.around_stop_le search.matched.length search.selected height
    have ordered := Window.around_start_le_stop search.matched.length search.selected height
    have offset := offset_box active height
    rw [points.length_rows_box active]
    omega
  rows := by
    intro place inside
    obtain ⟨found, item, there, held, _, shown⟩ := points.getElem?_rows_box active inside
    exact ⟨found, item, there, held, shown⟩
  marked := points.marked_box active high

omit points in
/-- A move of the selection moves the box by one row at most. -/
theorem offset_box_of_move {operation : SearchOperation}
    (move : operation = .up ∨ operation = .down) :
    ((search.perform operation).box height).offset ≤ (search.box height).offset + 1 ∧
      (search.box height).offset ≤ ((search.perform operation).box height).offset + 1 := by
  obtain ⟨selected, moved, further, back⟩ := @exists_selected_of_move search _ move
  have after : ({ search with selected } : HistorySearch).active = true := active
  rw [moved, offset_box active, offset_box after]
  exact ⟨Window.around_start_le further search.matched.length height,
    Window.around_start_le back search.matched.length height⟩

omit points active

/-- Whatever the search has seen, the selection points to a match if there is one. While the search
is active, a box of any height shows the window around the selection, and a move of the selection
moves it by one row at most. -/
theorem Reachable.box_follows_selection (reachable : Reachable search) :
    (search.matched = [] → search.selected = 0) ∧
      (search.matched ≠ [] → search.selected < search.matched.length) ∧
      (search.active = true → ∀ height, 0 < height →
        (search.box height).Shows search height ∧
          ∀ operation, operation = .up ∨ operation = .down →
            ((search.perform operation).box height).offset ≤ (search.box height).offset + 1 ∧
              (search.box height).offset ≤
                ((search.perform operation).box height).offset + 1) := by
  refine ⟨reachable.selected_of_unmatched, reachable.points.chosen.resolve_left, ?_⟩
  intro active height high
  refine ⟨reachable.points.shows_box active high, ?_⟩
  intro operation move
  exact offset_box_of_move active move

/-- After two moves down a box of three rows has the selection in its middle, and a third move takes
the box along. -/
theorem box_follows_selection_down :
    let items : List HistoryItem := (Text.of "abcde").map fun c => ⟨[c], Text.of "/"⟩
    let search := (((idle .all .recent).perform (.enter items (Text.of "/"))).perform .down).perform
      .down
    search.Reachable ∧ search.active = true ∧ 0 < 3 ∧ search.selected = 2 ∧
      (search.box 3).Shows search 3 ∧ (search.box 3).offset = 1 ∧
      ((search.perform .down).box 3).offset = 2 ∧
      ((search.perform .down).box 3).offset ≤ (search.box 3).offset + 1 := by
  intro items search
  have reachable : search.Reachable := .perform (.perform (.perform (.idle .all .recent) _) _) _
  obtain ⟨_, _, follows⟩ := reachable.box_follows_selection
  obtain ⟨shows, moves⟩ := follows rfl 3 (by decide)
  refine ⟨reachable, rfl, by decide, ?_, shows, ?_, ?_, (moves .down (.inr rfl)).1⟩ <;>
    decide +kernel

end HistorySearch

end Promptline
