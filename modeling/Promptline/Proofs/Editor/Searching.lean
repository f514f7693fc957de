/-
This file follows the editor through a history search. While the search goes on the line and the
entries of the kill ring wait as they are, and only the end of the search can change the line.
-/

import Mathlib.Data.List.Infix
import Promptline.Proofs.Editor.Reachable
import Promptline.Proofs.History.Selection

namespace Promptline

namespace Key

/-- Ctrl-R starts a search. -/
def StartsSearch (key : Key) : Prop :=
  key.modifiers.control = true ∧ ∃ c, key.code = .char c ∧ c.toLower = 'r'

/-- Ctrl-R, Ctrl-G, Ctrl-C and Esc cancel a search. -/
def CancelsSearch (key : Key) : Prop :=
  (key.modifiers.control = true ∧ ∃ c, key.code = .char c ∧ c.toLower ∈ ['r', 'g', 'c']) ∨
    key.modifiers.control = false ∧ key.modifiers.alt = false ∧ key.code = .escape

/-- Enter accepts the selected match. -/
def AcceptsSearch (key : Key) : Prop :=
  key.modifiers.control = false ∧ key.modifiers.alt = false ∧ key.code = .enter

theorem editAction?_of_startsSearch {key : Key} (starts : key.StartsSearch) :
    key.editAction? = some .searchStart := by
  obtain ⟨control, c, code, letter⟩ := starts
  simp only [editAction?, control, if_true, code, letter]
  rfl

theorem controlSearch?_eq_cancel_iff {c : Char} :
    controlSearch? c = some .cancel ↔ c ∈ ['r', 'g', 'c'] := by
  constructor
  · intro bound
    unfold controlSearch? at bound
    split at bound <;> simp_all
  · intro letter
    simp only [List.mem_cons, List.not_mem_nil, or_false] at letter
    rcases letter with rfl | rfl | rfl <;> rfl

theorem plainSearch?_eq_cancel_iff {code : KeyCode} :
    plainSearch? code = some .cancel ↔ code = .escape := by
  cases code with
  | char c =>
      show (if isControl c then none else some (SearchAction.type c)) = _ ↔ _
      split <;> simp
  | _ => decide

theorem controlSearch?_ne_accept (c : Char) : controlSearch? c ≠ some .accept := by
  unfold controlSearch?
  split <;> simp

theorem plainSearch?_eq_accept_iff {code : KeyCode} :
    plainSearch? code = some .accept ↔ code = .enter := by
  cases code with
  | char c =>
      show (if isControl c then none else some (SearchAction.type c)) = _ ↔ _
      split <;> simp
  | _ => decide

theorem searchAction?_eq_cancel_iff {key : Key} :
    key.searchAction? = some (.search .cancel) ↔ key.CancelsSearch := by
  obtain ⟨code, control, alt, shift⟩ := key
  cases control with
  | true => cases code <;> simp [searchAction?, CancelsSearch, controlSearch?_eq_cancel_iff]
  | false => cases alt <;> simp [searchAction?, CancelsSearch, plainSearch?_eq_cancel_iff]

theorem searchAction?_eq_accept_iff {key : Key} :
    key.searchAction? = some (.search .accept) ↔ key.AcceptsSearch := by
  obtain ⟨code, control, alt, shift⟩ := key
  cases control with
  | true => cases code <;> simp [searchAction?, AcceptsSearch, controlSearch?_ne_accept]
  | false => cases alt <;> simp [searchAction?, AcceptsSearch, plainSearch?_eq_accept_iff]

end Key

/-- What the action does to the search. -/
def SearchAction.operation : SearchAction → SearchOperation
  | type c => .type c
  | erase => .erase
  | up => .up
  | down => .down
  | cycleFilter => .cycleFilter
  | cycleSort => .cycleSort
  | accept => .accept
  | cancel => .cancel

/-- These actions end the search. -/
def SearchAction.leaves : SearchAction → Bool
  | accept | cancel => true
  | _ => false

namespace HistorySearch

/-- Within a search no action changes what is searched in. -/
theorem items_perform (search : HistorySearch) (action : SearchAction) :
    (search.perform action.operation).items = search.items := by
  cases action with
  | erase =>
      simp only [SearchAction.operation, perform, erase?]
      split <;> rfl
  | up =>
      simp only [SearchAction.operation, perform, up?]
      split <;> rfl
  | down =>
      simp only [SearchAction.operation, perform, down?]
      split <;> rfl
  | _ => rfl

theorem active_perform (search : HistorySearch) (action : SearchAction) :
    (search.perform action.operation).active = (search.active && !action.leaves) := by
  cases action with
  | erase =>
      simp only [SearchAction.operation, perform, erase?, SearchAction.leaves, Bool.not_false,
        Bool.and_true]
      split <;> rfl
  | up =>
      simp only [SearchAction.operation, perform, up?, SearchAction.leaves, Bool.not_false,
        Bool.and_true]
      split <;> rfl
  | down =>
      simp only [SearchAction.operation, perform, down?, SearchAction.leaves, Bool.not_false,
        Bool.and_true]
      split <;> rfl
  | accept => exact (Bool.and_false _).symm
  | cancel => exact (Bool.and_false _).symm
  | _ => exact (Bool.and_true _).symm

end HistorySearch

namespace Editor

/-- The line after a search action, which can only change it by accepting a command. -/
def lineAfter (editor : Editor) : SearchAction → LineBuffer
  | .accept => (editor.search.selectedCommand?.map editor.buffer.setDraft).getD editor.buffer
  | _ => editor.buffer

theorem searchWith_eq {editor : Editor} (searching : editor.search.active = true)
    (action : SearchAction) :
    (editor.searchWith action).1 =
      { editor with
        search := editor.search.perform action.operation
        buffer := editor.lineAfter action } := by
  have withSearch (search? : Option HistorySearch) :
      (editor.withSearch? search?).1 =
        { editor with search := search?.getD editor.search } := by
    cases search? <;> rfl
  simp only [searchWith, searching, Bool.not_true, Bool.false_eq_true, if_false]
  cases action with
  | accept => rfl
  | _ => exact withSearch _

theorem entries_prepare (editor : Editor) (action : Action) :
    (editor.prepare action).ring.entries = editor.ring.entries := by
  simp only [prepare]
  split <;> split <;> rfl

/-- The editor searches, with the line and the entries of the ring that another one had before. -/
structure SearchesIn (origin editor : Editor) : Prop where
  searching : editor.search.active = true
  line : editor.buffer = origin.buffer
  entries : editor.ring.entries = origin.ring.entries
  items : editor.search.items = origin.history
  points : editor.search.Points

theorem mode_eq_search_iff {editor : Editor} :
    editor.mode = .search ↔ editor.search.active = true := by
  cases active : editor.search.active <;> simp [mode, active]

theorem apply_of_searching {editor : Editor} (searching : editor.search.active = true) {key : Key}
    {action : Action} (bound : key.searchAction? = some action) (source : Source) :
    editor.apply source (.key key) = editor.perform source action := by
  have found : key.action? editor.mode = some action := by
    rw [mode_eq_search_iff.2 searching]
    exact bound
  simp only [apply, found]

theorem searchesIn_of_startsSearch {editor : Editor} (editing : editor.mode = .edit) {key : Key}
    (starts : key.StartsSearch) (source : Source) :
    SearchesIn editor (editor.apply source (.key key)).1 := by
  rw [apply_of_editing editing (Key.editAction?_of_startsSearch starts)]
  exact
    { searching := rfl
      line := rfl
      entries := editor.entries_prepare .searchStart
      items := rfl
      points := HistorySearch.points_recompute _ }

/-- A key of the search acts on the search and on the line, and all other events only on the query
and on the size of the screen. -/
theorem SearchesIn.apply_cases {origin editor : Editor} (searches : SearchesIn origin editor)
    (source : Source) (event : Event) :
    let after := (editor.apply source event).1
    ((∀ key, event = .key key → key.searchAction? = none) ∧ SearchesIn origin after) ∨
      ∃ key action, event = .key key ∧ key.searchAction? = some (.search action) ∧
        after.search = editor.search.perform action.operation ∧
        after.buffer = editor.lineAfter action ∧ after.ring.entries = origin.ring.entries := by
  intro after
  cases event with
  | key key =>
      cases bound : key.searchAction? with
      | none =>
          have free : key.action? editor.mode = none := by
            rw [mode_eq_search_iff.2 searches.searching]
            exact bound
          obtain ⟨size, same⟩ := apply_of_waits (.unbound free) source
          refine .inl ⟨fun other pressed => ?_, ?_⟩
          · obtain rfl := Event.key.inj pressed
            exact bound
          · change SearchesIn origin (editor.apply source (.key key)).1
            rw [same]
            exact { searches with }
      | some action =>
          obtain ⟨action, _, rfl⟩ := Option.map_eq_some_iff.1 bound
          have prepared : (editor.prepare (.search action)).search.active = true :=
            searches.searching
          have handled := searchWith_eq prepared action
          have same : after = (editor.perform source (.search action)).1 :=
            congrArg Prod.fst (apply_of_searching searches.searching bound source)
          refine .inr ⟨key, action, rfl, bound, ?_⟩
          rw [same]
          simp only [Editor.perform, handle, handled]
          refine ⟨rfl, rfl, ?_⟩
          exact (editor.entries_prepare (.search action)).trans searches.entries
  | paste text =>
      refine .inl ⟨fun _ impossible => Event.noConfusion impossible, ?_⟩
      change SearchesIn origin (editor.paste text).1
      simp only [paste, searches.searching, if_true]
      exact { searches with points := HistorySearch.points_recompute _ }
  | resize size =>
      exact .inl ⟨fun _ impossible => Event.noConfusion impossible, { searches with }⟩

/-- Every event that the search outlives leaves the line and the entries alone. -/
theorem SearchesIn.apply {origin editor : Editor} (searches : SearchesIn origin editor)
    (source : Source) (event : Event) (stays : (editor.apply source event).1.mode = .search) :
    SearchesIn origin (editor.apply source event).1 := by
  rcases searches.apply_cases source event with ⟨_, kept⟩ | ⟨key, action, rfl, _, acted⟩
  · exact kept
  · obtain ⟨search, line, entries⟩ := acted
    rw [mode_eq_search_iff] at stays
    have lasting : editor.lineAfter action = editor.buffer := by
      rw [search, HistorySearch.active_perform] at stays
      cases action with
      | accept => simp [SearchAction.leaves] at stays
      | _ => rfl
    have items := editor.search.items_perform action
    have points := searches.points.perform action.operation
    rw [← search] at items points
    exact
      { searching := stays
        line := (line.trans lasting).trans searches.line
        entries
        items := items.trans searches.items
        points }

/-- A search leaves the line and the entries alone for as long as it goes on. -/
theorem SearchesIn.run {origin editor : Editor} (searches : SearchesIn origin editor)
    {events : List (Source × Event)}
    (stays : ∀ done, done <+: events → (editor.run done).mode = .search) :
    SearchesIn origin (editor.run events) := by
  induction events generalizing editor with
  | nil => exact searches
  | cons event rest inductionHypothesis =>
      have next := stays [event] ⟨rest, rfl⟩
      apply inductionHypothesis (searches.apply event.1 event.2 next)
      intro done earlier
      exact stays (event :: done) (List.cons_prefix_cons.2 ⟨rfl, earlier⟩)

/-- Only a key that cancels or accepts ends the search. -/
theorem SearchesIn.leaves_iff {origin editor : Editor} (searches : SearchesIn origin editor)
    (source : Source) (event : Event) :
    (editor.apply source event).1.mode = .edit ↔
      ∃ key, event = .key key ∧ (key.CancelsSearch ∨ key.AcceptsSearch) := by
  rw [mode_eq_edit_iff]
  rcases searches.apply_cases source event with
    ⟨unbound, kept⟩ | ⟨key, action, rfl, bound, search, _⟩
  · rw [kept.searching]
    constructor
    · intro impossible
      exact absurd impossible.symm Bool.false_ne_true
    · rintro ⟨key, pressed, ends⟩
      rw [← Key.searchAction?_eq_cancel_iff, ← Key.searchAction?_eq_accept_iff,
        unbound key pressed] at ends
      simp at ends
  · rw [search, HistorySearch.active_perform, searches.searching]
    have ends : (∃ other, Event.key key = .key other ∧
        (other.CancelsSearch ∨ other.AcceptsSearch)) ↔ action = .cancel ∨ action = .accept := by
      simp [← Key.searchAction?_eq_cancel_iff, ← Key.searchAction?_eq_accept_iff, bound]
    rw [ends]
    cases action <;> simp [SearchAction.leaves]

/-- The line and the entries of the ring wait for the end of a search. A canceled search leaves them
as they were, and an accepted one puts the selected command into the draft, if there is one. -/
theorem line_through_search {editor : Editor} (editing : editor.mode = .edit) {key : Key}
    (starts : key.StartsSearch) (source : Source) {events : List (Source × Event)}
    (stays : ∀ done, done <+: events →
      ((editor.apply source (.key key)).1.run done).mode = .search) :
    let searching := (editor.apply source (.key key)).1.run events
    searching.buffer = editor.buffer ∧ searching.ring.entries = editor.ring.entries ∧
      ∀ source event, let after := (searching.apply source event).1
        (after.mode = .edit ↔
          ∃ key, event = .key key ∧ (key.CancelsSearch ∨ key.AcceptsSearch)) ∧
        after.ring.entries = editor.ring.entries ∧
        (∀ key, event = .key key → key.CancelsSearch → after.buffer = editor.buffer) ∧
        ∀ key, event = .key key → key.AcceptsSearch →
          searching.search.matched = [] ∧ after.buffer = editor.buffer ∨
            ∃ found item, searching.search.matched[searching.search.selected]? = some found ∧
              editor.history[found.index]? = some item ∧ item.command = found.command ∧
              let draft := LineBuffer.cut editor.buffer.limit? found.command
              after.buffer.draft = draft ∧ after.buffer.selected = 0 ∧
                after.buffer.shown = draft ∧ after.buffer.cursor = draft.length ∧
                after.buffer.entries = editor.buffer.entries := by
  intro searching
  have searches : SearchesIn editor searching :=
    (searchesIn_of_startsSearch editing starts source).run stays
  have performed {key : Key} {action : SearchAction}
      (bound : key.searchAction? = some (.search action)) (source : Source) :
      (searching.apply source (.key key)).1.buffer = searching.lineAfter action := by
    rcases searches.apply_cases source (.key key) with
      ⟨unbound, _⟩ | ⟨_, _, pressed, bound', _, line, _⟩
    · simp [unbound key rfl] at bound
    · obtain rfl := Event.key.inj pressed
      obtain rfl := Action.search.inj (Option.some.inj (bound.symm.trans bound'))
      exact line
  refine ⟨searches.line, searches.entries, fun source event => ?_⟩
  refine ⟨searches.leaves_iff source event, ?_, fun key pressed cancels => ?_,
    fun key pressed accepts => ?_⟩
  · rcases searches.apply_cases source event with ⟨_, kept⟩ | ⟨_, _, _, _, _, _, entries⟩
    · exact kept.entries
    · exact entries
  · subst pressed
    rw [← Key.searchAction?_eq_cancel_iff] at cancels
    exact (performed cancels source).trans searches.line
  · subst pressed
    rw [← Key.searchAction?_eq_accept_iff] at accepts
    have line := performed accepts source
    rcases searches.points.selectedCommand?_eq with ⟨nothing, unselected⟩ | chosen
    · left
      refine ⟨nothing, line.trans ?_⟩
      simp only [lineAfter, unselected, Option.map_none, Option.getD_none, searches.line]
    · right
      obtain ⟨found, item, there, held, same, selected⟩ := chosen
      have drafted : (searching.apply source (.key key)).1.buffer =
          editor.buffer.setDraft found.command := by
        rw [line]
        simp only [lineAfter, selected, Option.map_some, Option.getD_some, searches.line]
      rw [searches.items] at held
      refine ⟨found, item, there, held, same, ?_⟩
      rw [drafted]
      exact ⟨rfl, rfl, rfl, rfl, rfl⟩

/-- An accepted command is cut to the limit, and a canceled search brings the draft back. -/
theorem line_through_pasted_search :
    let source := Source.onEmptyLine []
    let editor := (small (some 6) [Text.of "make test", Text.of "git push"]).run
      [(source, .key (.typed 'l')), (source, .key (.typed 's')), (source, .key (.control 'b'))]
    let searching := (editor.apply source (.key (.control 'r'))).1.run
      [(source, .paste (Text.of "pu")), (source, .key (.control 'a')), (source, .resize ⟨9, 2⟩)]
    let canceled := (searching.apply source (.key (.control 'G'))).1
    let accepted := (searching.apply source (.key (.plain .enter))).1
    editor.mode = .edit ∧ editor.buffer.draft = Text.of "ls" ∧ editor.buffer.cursor = 1 ∧
      searching.mode = .search ∧ searching.buffer = editor.buffer ∧
      canceled.mode = .edit ∧ canceled.buffer = editor.buffer ∧
      accepted.mode = .edit ∧ accepted.buffer.draft = Text.of "git pu" ∧
      accepted.buffer.cursor = 6 := by
  intro source editor searching canceled accepted
  have editing : editor.mode = .edit := by decide
  have stays : ∀ done ∈ List.inits [(source, Event.paste (Text.of "pu")),
      (source, .key (.control 'a')), (source, .resize ⟨9, 2⟩)],
      ((editor.apply source (.key (.control 'r'))).1.run done).mode = .search := by
    decide +kernel
  obtain ⟨line, _, after⟩ := line_through_search editing ⟨rfl, 'r', rfl, rfl⟩ source
    fun done earlier => stays done ((List.mem_inits done _).2 earlier)
  obtain ⟨leaves, _, back, _⟩ := after source (.key (.control 'G'))
  obtain ⟨leaves', _, _, taken⟩ := after source (.key (.plain .enter))
  have cancels : (Key.control 'G').CancelsSearch := .inl ⟨rfl, 'G', rfl, by decide⟩
  have accepts : (Key.plain .enter).AcceptsSearch := ⟨rfl, rfl, rfl⟩
  have found : searching.search.matched.map HistoryMatch.command = [Text.of "git push"] := by
    decide +kernel
  have selected : searching.search.selected = 0 := by decide +kernel
  have limited : editor.buffer.limit? = some 6 := by decide +kernel
  have mode : searching.mode = .search := by decide +kernel
  have written : editor.buffer.draft = Text.of "ls" ∧ editor.buffer.cursor = 1 := by
    decide +kernel
  -- The names stand for long terms, which only match once they are written out.
  simp only [canceled, accepted, searching] at mode found selected ⊢
  refine ⟨editing, written.1, written.2, mode, line, leaves.2 ⟨.control 'G', rfl, .inl cancels⟩,
    back (.control 'G') rfl cancels, leaves'.2 ⟨.plain .enter, rfl, .inr accepts⟩, ?_⟩
  rcases taken (.plain .enter) rfl accepts with
    ⟨nothing, _⟩ | ⟨one, _, there, _, _, draft, _, _, cursor, _⟩
  · simp [nothing] at found
  · have command : one.command = Text.of "git push" := by
      have first := congrArg (fun commands => commands[0]?) found
      rw [selected] at there
      simpa [there] using first
    rw [draft, cursor, command, limited]
    decide

end Editor

end Promptline
