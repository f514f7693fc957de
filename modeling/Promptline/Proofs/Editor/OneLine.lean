/-
This file follows control characters through the editor. Keys, pastes, kills and the history bring
none into it, so they only come from a source that offers them.
-/

import Promptline.Proofs.Completion.Choosing
import Promptline.Proofs.Editor.Limit
import Promptline.Proofs.Spec.OneLine

namespace Promptline

theorem Text.slice_subset (text : Text) (start stop : Nat) : text.slice start stop ⊆ text :=
  List.Subset.trans (List.drop_subset _ _) (List.take_subset _ _)

namespace LineBuffer

/-- The draft and all that the line can recall is on one line. -/
structure OnOneLine (buffer : LineBuffer) : Prop where
  draft : buffer.draft.OnOneLine
  entries : ∀ entry ∈ buffer.entries, entry.OnOneLine

theorem OnOneLine.shown {buffer : LineBuffer} (clean : buffer.OnOneLine) :
    buffer.shown.OnOneLine := by
  simp only [LineBuffer.shown]
  cases selected : (buffer.draft :: buffer.entries)[buffer.selected]? with
  | none => exact clean.draft
  | some text =>
      rcases List.mem_cons.1 (List.mem_of_getElem? selected) with rfl | listed
      · exact clean.draft
      · exact clean.entries text listed

/-- An operation brings no other control characters into the draft than its text has. -/
theorem OnOneLine.perform {buffer : LineBuffer} (clean : buffer.OnOneLine)
    (inside : buffer.cursor ≤ buffer.length) {operation : Operation}
    (edits : operation.setsUp = false) (brought : operation.text.OnOneLine) :
    (buffer.perform operation).OnOneLine where
  entries := by
    have kept : (buffer.perform operation).entries = buffer.entries :=
      congrArg Prod.fst (setup_perform buffer edits)
    rw [kept]
    exact clean.entries
  draft := by
    cases asked : buffer.edit? operation with
    | none =>
        rw [(draft_perform_of_not_edit asked).1]
        exact clean.draft
    | some edit =>
        have edited := edited_of_edit? inside asked
        cases denied : (buffer.report operation).deniesChange with
        | true =>
            rw [(edited.idle denied).1]
            exact clean.draft
        | false =>
            have accepted : (buffer.accepted edit).OnOneLine := by
              rw [← text_of_edit? asked] at brought
              exact brought.of_subset (buffer.accepted_isPrefix edit).subset
            rw [(edited.replaces denied).1.draft_eq]
            exact ((clean.shown.of_subset (List.take_subset _ _)).append accepted).append
              (clean.shown.of_subset (List.drop_subset _ _))

end LineBuffer

namespace KillRing

/-- The ring holds texts on one line only. -/
def OnOneLine (ring : KillRing) : Prop := ∀ entry ∈ ring.entries, entry.OnOneLine

theorem OnOneLine.record {ring : KillRing} (clean : ring.OnOneLine) {text : Text}
    (killed : text.OnOneLine) (direction : KillDirection) :
    (ring.record direction text).OnOneLine := by
  intro entry listed
  simp only [KillRing.record] at listed
  split at listed
  · exact clean entry listed
  · dsimp only at listed
    split at listed
    next newest older held _ =>
      have old : ∀ entry ∈ newest :: older, entry.OnOneLine := fun entry member =>
        clean entry (held ▸ member)
      rcases List.mem_cons.1 listed with rfl | rest
      · cases direction with
        | forward => exact (old newest List.mem_cons_self).append killed
        | backward => exact killed.append (old newest List.mem_cons_self)
      · exact old entry (List.mem_cons_of_mem newest rest)
    · rcases List.mem_cons.1 (List.mem_of_mem_take listed) with rfl | rest
      · exact killed
      · exact clean entry rest

end KillRing

/-- The items are single lines, and so is the query. -/
structure HistorySearch.OnOneLine (search : HistorySearch) : Prop where
  query : search.query.OnOneLine
  items : ∀ item ∈ search.items, item.command.OnOneLine
  points : search.Points

/-- The character that the action types. -/
def Action.typed? : Action → Option Char
  | edit (.insert c) | search (.type c) => some c
  | _ => none

namespace HistorySearch

theorem OnOneLine.perform {search : HistorySearch} (clean : search.OnOneLine)
    {action : SearchAction}
    (printed : ∀ c, (Action.search action).typed? = some c → isControl c = false) :
    (search.perform action.operation).OnOneLine where
  items := by
    rw [items_perform]
    exact clean.items
  points := clean.points.perform action.operation
  query := by
    cases action with
    | type c => exact clean.query.append (Text.onOneLine_singleton (printed c rfl))
    | erase =>
        simp only [SearchAction.operation, HistorySearch.perform, erase?]
        split
        · exact clean.query
        · exact clean.query.of_subset (List.dropLast_subset _)
    | up =>
        simp only [SearchAction.operation, HistorySearch.perform, up?]
        split <;> exact clean.query
    | down =>
        simp only [SearchAction.operation, HistorySearch.perform, down?]
        split <;> exact clean.query
    | accept => exact Text.onOneLine_nil
    | cancel => exact Text.onOneLine_nil
    | _ => exact clean.query

theorem OnOneLine.selectedCommand? {search : HistorySearch} (clean : search.OnOneLine)
    {command : Text} (selected : search.selectedCommand? = some command) :
    command.OnOneLine := by
  rcases clean.points.selectedCommand?_eq with ⟨_, none⟩ | ⟨found, item, _, held, same, chosen⟩
  · simp [none] at selected
  · obtain rfl := Option.some.inj (chosen.symm.trans selected)
    rw [← same]
    exact clean.items item (List.mem_of_getElem? held)

end HistorySearch

/-- An open session keeps a line, and it has candidates, without control characters. -/
def Completion.OnOneLine (completion : Completion) : Prop :=
  ∀ session, completion.session? = some session →
    session.line.OnOneLine ∧ ∀ candidate ∈ session.candidates, candidate.value.OnOneLine

namespace Completion

theorem onOneLine_of_idle {completion : Completion} (idle : completion.session? = none) :
    completion.OnOneLine := by
  intro session held
  simp [idle] at held

/-- A press opens sessions on what the line shows and with what the source offers. -/
theorem OnOneLine.press {completion : Completion} (clean : completion.OnOneLine)
    {buffer : LineBuffer} (line : buffer.shown.OnOneLine) {source : Source}
    (offers : ∀ candidate ∈ source.candidates buffer.shown buffer.cursor,
      candidate.value.OnOneLine) (next : Nat → Option Nat → Nat) :
    (completion.press buffer source next).1.OnOneLine := by
  rcases completion.press_cases buffer source next with ⟨session, held, _, moved⟩ | ⟨_, anew⟩
  · rw [moved]
    intro selected same
    obtain rfl := Option.some.inj same
    obtain ⟨candidates, kept, _⟩ :=
      session.select_keeps buffer (next session.candidates.length session.selected?)
    rw [candidates, kept]
    exact clean session held
  · rw [anew]
    rcases completion.activate_cases buffer source with ⟨_, nothing⟩ | ⟨opened, _, opens, answer⟩
    · rw [nothing]
      exact onOneLine_of_idle rfl
    · rw [answer]
      intro session same
      obtain rfl := Option.some.inj same
      rw [opens.candidates_eq, opens.opened_on.1]
      exact ⟨line, offers⟩

end Completion

namespace Key

theorem typed?_controlEdit? {c : Char} {action : Action} (bound : controlEdit? c = some action) :
    action.typed? = none := by
  unfold controlEdit? at bound
  split at bound <;> simp at bound <;> subst bound <;> rfl

theorem typed?_altEdit? {code : KeyCode} {action : Action} (bound : altEdit? code = some action) :
    action.typed? = none := by
  unfold altEdit? at bound
  split at bound <;> simp at bound <;> subst bound <;> rfl

theorem typed?_controlSearch? {c : Char} {action : SearchAction}
    (bound : controlSearch? c = some action) : (Action.search action).typed? = none := by
  unfold controlSearch? at bound
  split at bound <;> simp at bound <;> subst bound <;> rfl

theorem isControl_of_plainEdit? {shift : Bool} {code : KeyCode} {action : Action}
    (bound : plainEdit? shift code = some action) {c : Char} (typed : action.typed? = some c) :
    isControl c = false := by
  cases code with
  | char d =>
      simp only [plainEdit?] at bound
      split at bound
      · simp at bound
      next printed =>
        obtain rfl := Option.some.inj bound
        obtain rfl := Option.some.inj typed
        simpa using printed
  | tab =>
      obtain rfl := Option.some.inj bound
      cases shift <;> simp [Action.typed?] at typed
  | _ =>
      obtain rfl := Option.some.inj bound
      simp [Action.typed?] at typed

theorem isControl_of_plainSearch? {code : KeyCode} {action : SearchAction}
    (bound : plainSearch? code = some action) {c : Char}
    (typed : (Action.search action).typed? = some c) : isControl c = false := by
  cases code with
  | char d =>
      change (if isControl d then none else some (SearchAction.type d)) = some action at bound
      split at bound
      · simp at bound
      next printed =>
        obtain rfl := Option.some.inj bound
        obtain rfl := Option.some.inj typed
        simpa using printed
  | delete | left | right | home | lineEnd => cases bound
  | _ =>
      obtain rfl := Option.some.inj bound
      simp [Action.typed?] at typed

/-- No key types a control character. -/
theorem isControl_of_action? {mode : InputMode} {key : Key} {action : Action}
    (bound : key.action? mode = some action) {c : Char} (typed : action.typed? = some c) :
    isControl c = false := by
  cases mode with
  | edit =>
      simp only [action?, editAction?] at bound
      split at bound
      · split at bound
        · simp [typed?_controlEdit? bound] at typed
        · simp at bound
      · split at bound
        · simp [typed?_altEdit? bound] at typed
        · exact isControl_of_plainEdit? bound typed
  | search =>
      obtain ⟨search, found, rfl⟩ := Option.map_eq_some_iff.1 bound
      split at found
      · split at found
        · simp [typed?_controlSearch? found] at typed
        · simp at found
      · split at found
        · simp at found
        · exact isControl_of_plainSearch? found typed

end Key

theorem Suggestion.exists_command_of_rest? {draft rest : Text} {commands : List Text}
    (suggested : rest? draft commands = some rest) :
    ∃ command ∈ commands, rest = command.drop draft.length := by
  simp only [rest?] at suggested
  split at suggested
  · simp at suggested
  · obtain ⟨command, chosen, rfl⟩ := Option.map_eq_some_iff.1 suggested
    exact ⟨command, (List.mem_filter.1 (mostFrequent?_mem chosen)).1, rfl⟩

namespace Editor

/-- No part of the editor holds a control character. -/
structure OnOneLine (editor : Editor) : Prop where
  line : editor.buffer.OnOneLine
  ring : editor.ring.OnOneLine
  search : editor.search.OnOneLine
  completion : editor.completion.OnOneLine
  history : ∀ item ∈ editor.history, item.command.OnOneLine

section OnOneLine

variable {editor : Editor} {source : Source} {action : Action}

theorem OnOneLine.prepare (clean : editor.OnOneLine) (action : Action) :
    (editor.prepare action).OnOneLine where
  line := clean.line
  ring := by
    rw [KillRing.OnOneLine, entries_prepare]
    exact clean.ring
  search := clean.search
  completion := by
    simp only [Editor.prepare]
    split
    · exact clean.completion
    · exact Completion.onOneLine_of_idle rfl
  history := clean.history

/-- The texts that an action takes for the line are on one line. -/
theorem OnOneLine.supplied (clean : editor.OnOneLine)
    (offers : ∀ candidate ∈ source.candidates editor.buffer.shown editor.buffer.cursor,
      candidate.value.OnOneLine)
    (printed : ∀ c, action.typed? = some c → isControl c = false) {text : Text}
    (supplies : editor.Supplies source action text) : text.OnOneLine := by
  cases supplies with
  | typed c => exact Text.onOneLine_singleton (printed c rfl)
  | suggested motion ghost =>
      simp only [ghost?] at ghost
      split at ghost
      · obtain ⟨command, listed, rfl⟩ := Suggestion.exists_command_of_rest? ghost
        obtain ⟨item, member, rfl⟩ := List.mem_map.1 listed
        exact (clean.history item member).of_subset (List.drop_subset _ _)
      · simp at ghost
  | killed _ held => exact clean.ring text held
  | offered direction offering listed start =>
      refine Text.OnOneLine.of_subset ?_ start.subset
      rcases offering with ⟨session, held, rfl⟩ | rfl
      · exact (clean.completion session held).2 _ listed
      · exact offers _ listed
  | found selected => exact clean.search.selectedCommand? selected

/-- So are the lines that it leaves behind. -/
theorem OnOneLine.left (clean : editor.OnOneLine)
    (inside : editor.buffer.cursor ≤ editor.buffer.length)
    (offers : ∀ candidate ∈ source.candidates editor.buffer.shown editor.buffer.cursor,
      candidate.value.OnOneLine)
    (printed : ∀ c, action.typed? = some c → isControl c = false) {after : LineBuffer}
    (leaves : editor.Leaves source action after) : after.OnOneLine := by
  cases leaves with
  | same => exact clean.line
  | performed operation edits supplied =>
      refine clean.line.perform inside edits ?_
      rcases supplied with empty | supplies
      · rw [empty]
        exact Text.onOneLine_nil
      · exact clean.supplied offers printed supplies
  | restored held =>
      exact ⟨(clean.completion _ held).1.of_subset (LineBuffer.cut_isPrefix _ _).subset,
        clean.line.entries⟩

/-- A killed text is a part of the line. -/
theorem taken_subset (buffer : LineBuffer) (kill : Kill) :
    (taken buffer kill).2 ⊆ buffer.shown := by
  have removed (start stop : Nat) : (buffer.remove start stop).2 ⊆ buffer.shown := by
    simp only [LineBuffer.remove]
    split
    · exact List.nil_subset _
    · exact Text.slice_subset _ _ _
  have span (start stop : Nat) :
      ((buffer.kill? start stop).getD (buffer, [])).2 ⊆ buffer.shown := by
    simp only [LineBuffer.kill?]
    split
    · exact List.nil_subset _
    · exact removed start stop
  cases kill <;> exact span _ _

theorem Handles.ring_onOneLine {after : Editor} (handles : editor.Handles source action after)
    (clean : editor.OnOneLine) : after.ring.OnOneLine := by
  cases handles with
  | kill kill => exact clean.ring.record (clean.line.shown.of_subset (taken_subset _ kill)) _
  | _ => exact clean.ring

theorem Handles.completion_onOneLine {after : Editor}
    (handles : editor.Handles source action after) (clean : editor.OnOneLine)
    (offers : ∀ candidate ∈ source.candidates editor.buffer.shown editor.buffer.cursor,
      candidate.value.OnOneLine) : after.completion.OnOneLine := by
  cases handles with
  | line => exact clean.completion
  | kill => exact clean.completion
  | yank => exact clean.completion
  | press direction => exact clean.completion.press clean.line.shown offers direction.next
  | clearScreen => exact clean.completion
  | search => exact clean.completion
  | _ => exact Completion.onOneLine_of_idle rfl

theorem search_enterSearch (clean : editor.OnOneLine) : editor.enterSearch.search.OnOneLine where
  query := Text.onOneLine_nil
  items := clean.history
  points := HistorySearch.points_recompute _

theorem search_resetLine (clean : editor.OnOneLine) : editor.resetLine.search.OnOneLine := by
  have canceled : editor.search.cancel.OnOneLine :=
    ⟨Text.onOneLine_nil, clean.search.items, HistorySearch.points_of_unmatched rfl⟩
  simp only [resetLine]
  split
  · exact canceled
  · exact clean.search

theorem Handles.search_onOneLine {after : Editor} (handles : editor.Handles source action after)
    (clean : editor.OnOneLine) (other : ∀ search, action ≠ .search search) :
    after.search.OnOneLine := by
  cases handles with
  | submit => exact search_resetLine clean
  | interrupt => exact search_resetLine clean
  | searchStart => exact search_enterSearch clean
  | search action => exact absurd rfl (other action)
  | _ => exact clean.search

theorem search_searchWith (clean : editor.OnOneLine) {action : SearchAction}
    (printed : ∀ c, (Action.search action).typed? = some c → isControl c = false) :
    (editor.searchWith action).1.search.OnOneLine := by
  cases searching : editor.search.active with
  | false =>
      simp only [searchWith, searching, Bool.not_false, if_true]
      exact clean.search
  | true =>
      rw [searchWith_eq searching]
      exact clean.search.perform printed

/-- An action keeps every part on one line. -/
theorem OnOneLine.handle (clean : editor.OnOneLine)
    (inside : editor.buffer.cursor ≤ editor.buffer.length)
    (offers : ∀ candidate ∈ source.candidates editor.buffer.shown editor.buffer.cursor,
      candidate.value.OnOneLine)
    (printed : ∀ c, action.typed? = some c → isControl c = false) :
    (editor.handle source action).1.OnOneLine := by
  have handles := editor.handles source action
  exact
    { line := clean.left inside offers printed (editor.leaves_handle source action)
      ring := handles.ring_onOneLine clean
      search := by
        cases action with
        | search action => exact search_searchWith clean printed
        | _ => exact handles.search_onOneLine clean nofun
      completion := handles.completion_onOneLine clean offers
      history := by
        rw [handles.history_eq]
        exact clean.history }

/-- So does an event that asks a source that stays on the line. -/
theorem OnOneLine.apply (clean : editor.OnOneLine)
    (inside : editor.buffer.cursor ≤ editor.buffer.length) (stays : source.StaysOnLine)
    (event : Event) : (editor.apply source event).1.OnOneLine := by
  cases event with
  | key key =>
      simp only [Editor.apply]
      split
      · exact clean
      next action bound =>
        have offers := stays editor.buffer.shown editor.buffer.cursor clean.line.shown inside
        have handled := (clean.prepare action).handle inside offers
          fun c typed => Key.isControl_of_action? bound typed
        exact { handled with }
  | paste text =>
      have line : text.singleLine.OnOneLine :=
        fun _ member => Text.isControl_eq_false_of_mem_singleLine member
      simp only [Editor.apply, paste]
      split
      · refine { clean with search := ⟨clean.search.query.append line, clean.search.items, ?_⟩ }
        exact HistorySearch.points_recompute _
      · have inserted : (editor.buffer.perform (.insert text.singleLine)).OnOneLine :=
          clean.line.perform inside rfl line
        exact
          { line := inserted
            ring := clean.ring
            search := clean.search
            completion := Completion.onOneLine_of_idle rfl
            history := clean.history }
  | resize size => exact { clean with }

theorem OnOneLine.run (clean : editor.OnOneLine) (reachable : editor.Reachable)
    {events : List (Source × Event)} (stay : ∀ event ∈ events, event.1.StaysOnLine) :
    (editor.run events).OnOneLine := by
  induction events generalizing editor with
  | nil => exact clean
  | cons event rest inductionHypothesis =>
      have first := clean.apply reachable.line.bounded.cursor_le (stay event List.mem_cons_self)
        event.2
      exact inductionHypothesis first (reachable.apply event.1 event.2) fun other member =>
        stay other (List.mem_cons_of_mem event member)

/-- A new editor with a history of single lines. -/
theorem onOneLine_started (options : EditorOptions) (directory : Text) (size : ScreenSize)
    (validator? : Option Validator) {history : List HistoryItem}
    (lines : ∀ item ∈ history, item.command.OnOneLine) :
    ((started options directory size validator?).setHistory history).OnOneLine where
  line := ⟨Text.onOneLine_nil, List.forall_mem_map.2 lines⟩
  ring := fun _ member => absurd member List.not_mem_nil
  search := ⟨Text.onOneLine_nil, fun _ member => absurd member List.not_mem_nil,
    HistorySearch.points_of_unmatched rfl⟩
  completion := Completion.onOneLine_of_idle rfl
  history := lines

end OnOneLine

/-- Outside the search and without a session the editor shows a line that has no limit. -/
structure Awaits (editor : Editor) (line : Text) (cursor : Nat) : Prop where
  editing : editor.mode = .edit
  idle : editor.completion.session? = none
  unlimited : editor.buffer.limit? = none
  shown_eq : editor.buffer.shown = line
  cursor_eq : editor.buffer.cursor = cursor

section Awaits

variable {editor : Editor} {line : Text} {cursor : Nat}

/-- A line without control characters can be typed. -/
theorem Awaits.type (awaits : editor.Awaits [] 0) (bounded : editor.buffer.Bounded)
    (clean : line.OnOneLine) (source : Source) :
    (editor.run (pressed source line.keys)).Awaits line line.length := by
  by_cases empty : line = []
  · rw [empty]
    exact awaits
  · have typed : (pressed source line.keys).map Prod.snd = line.keys.map Event.key :=
      List.map_map
    obtain ⟨shows, _⟩ := (LineBuffer.shows_around_cursor bounded.cursor_le).insert line
    rw [awaits.shown_eq, awaits.unlimited, List.take_nil, List.drop_nil] at shows
    rw [run_keys awaits.editing bounded empty clean typed]
    refine ⟨awaits.editing, rfl, ?_, ?_, ?_⟩
    · exact (LineBuffer.Edits.refl.perform (.insert line) rfl).limit?.trans awaits.unlimited
    · exact shows.shown_eq.trans (List.append_nil line)
    · exact shows.cursor_eq

theorem apply_left (editing : editor.mode = .edit) (source : Source) :
    (editor.apply source (.key (.plain .left))).1 =
      editor.entered { editor.buffer with cursor := editor.buffer.cursor - 1 } := by
  have bound : (Key.plain .left).editAction? = some (.motion .left) := rfl
  have moved : editor.buffer.moveLeft?.getD editor.buffer =
      { editor.buffer with cursor := editor.buffer.cursor - 1 } := by
    simp only [LineBuffer.moveLeft?, LineBuffer.moveTo?]
    split
    next stays => rw [stays, Option.getD_none]
    · rfl
  rw [apply_of_editing editing bound, ← moved]
  simp only [perform, handle, move, takesGhost, Bool.and_false, Bool.false_eq_true, if_false,
    Editor.moved?]
  have kept : (editor.prepare (.motion .left)).buffer = editor.buffer := rfl
  rw [kept]
  cases editor.buffer.moveLeft? <;> rfl

theorem Awaits.left (awaits : editor.Awaits line cursor) (source : Source) :
    (editor.apply source (.key (.plain .left))).1.Awaits line (cursor - 1) := by
  rw [apply_left awaits.editing source]
  exact ⟨awaits.editing, rfl, awaits.unlimited, awaits.shown_eq,
    congrArg (· - 1) awaits.cursor_eq⟩

theorem Awaits.lefts (awaits : editor.Awaits line cursor) (source : Source) (count : Nat) :
    (editor.run (pressed source (List.replicate count (.plain .left)))).Awaits line
      (cursor - count) := by
  induction count generalizing editor cursor with
  | zero => exact awaits
  | succ count inductionHypothesis =>
      have rest := inductionHypothesis (awaits.left source)
      rw [Nat.sub_sub, Nat.add_comm] at rest
      exact rest

/-- The presses of the tab key are those of the completion. -/
theorem run_tabs (editing : editor.mode = .edit) (source : Source) (count : Nat) :
    let after := editor.run (pressed source (List.replicate count (.plain .tab)))
    after.buffer =
      (editor.completion.pressAll editor.buffer (List.replicate count (.forward, source))).2 := by
  dsimp only
  induction count generalizing editor with
  | zero => rfl
  | succ count inductionHypothesis =>
      have bound : (Key.plain .tab).editAction? = some TabDirection.forward.action := rfl
      obtain ⟨completion, line, still⟩ := apply_tab editing bound source
      have rest := inductionHypothesis still
      rw [completion, line] at rest
      exact rest

/-- Enough presses of the tab key put what the source offers into the line. -/
theorem Awaits.exists_tabs (awaits : editor.Awaits line cursor) (inside : cursor ≤ line.length)
    {source : Source} {candidate : Candidate}
    (offered : candidate ∈ source.candidates line cursor) :
    ∃ count, (editor.run (pressed source (List.replicate count (.plain .tab)))).buffer.Holds
      candidate.value := by
  rw [← awaits.shown_eq, ← awaits.cursor_eq] at offered
  have within : editor.buffer.cursor ≤ editor.buffer.length := by
    rw [LineBuffer.length, awaits.shown_eq, awaits.cursor_eq]
    exact inside
  obtain ⟨presses, holds⟩ :=
    Completion.exists_presses_of_candidate awaits.idle within awaits.unlimited offered
  rw [← run_tabs awaits.editing] at holds
  exact ⟨presses, holds⟩

/-- What a source offers for a line without control characters can be brought into the draft. -/
theorem Awaits.exists_keys (awaits : editor.Awaits [] 0) (bounded : editor.buffer.Bounded)
    (clean : line.OnOneLine) (inside : cursor ≤ line.length) {source : Source}
    {candidate : Candidate} (offered : candidate ∈ source.candidates line cursor) :
    ∃ keys, (editor.run (pressed source keys)).buffer.Holds candidate.value := by
  have placed := (awaits.type bounded clean source).lefts source (line.length - cursor)
  rw [Nat.sub_sub_self inside, ← run_pressed_append] at placed
  obtain ⟨count, holds⟩ := placed.exists_tabs inside offered
  rw [← run_pressed_append] at holds
  exact ⟨_, holds⟩

end Awaits

/-- With a history of single lines and sources that stay on the line no control character gets into
the draft, the kill ring or the query. Without a limit a source that does not can bring one into the
draft. -/
theorem draft_onOneLine_run (options : EditorOptions) (directory : Text) (size : ScreenSize)
    (validator? : Option Validator) {history : List HistoryItem}
    (lines : ∀ item ∈ history, item.command.OnOneLine) :
    let editor := (started options directory size validator?).setHistory history
    (∀ events, (∀ event ∈ events, event.1.StaysOnLine) →
      let after := editor.run events
      after.buffer.draft.OnOneLine ∧ (∀ entry ∈ after.ring.entries, entry.OnOneLine) ∧
        after.search.query.OnOneLine) ∧
      (options.limit? = none → ∀ source : Source, ¬ source.StaysOnLine →
        ∃ keys, ¬ (editor.run (pressed source keys)).buffer.draft.OnOneLine) := by
  intro editor
  have reachable : editor.Reachable := (Reachable.started _ _ _ _).setHistory history
  constructor
  · intro events stay after
    have clean : after.OnOneLine :=
      (onOneLine_started options directory size validator? lines).run reachable stay
    exact ⟨clean.line.draft, clean.ring, clean.search.query⟩
  · intro unlimited source strays
    simp only [Source.StaysOnLine, not_forall] at strays
    obtain ⟨line, cursor, clean, inside, candidate, offered, broken⟩ := strays
    have begun : editor.Awaits [] 0 := ⟨rfl, rfl, unlimited, rfl, rfl⟩
    obtain ⟨keys, head, tail, draft⟩ :=
      begun.exists_keys reachable.line.bounded clean inside offered
    refine ⟨keys, fun whole => broken (whole.of_subset ?_)⟩
    rw [draft, List.append_assoc]
    exact List.subset_append_of_subset_right head (List.subset_append_left _ tail)

/-- A word list with a tab between its words stays on the line, and a program that writes a tab into
a JSON string does not. -/
theorem draft_onOneLine_run_of_specs :
    let host : CompletionHost := ⟨fun _ _ => some (Text.of "[\"a\\tb\"]"), none⟩
    let listed := Registry.source ⟨[⟨Text.of "x", .wordList, Text.of "a\tb", []⟩]⟩ host []
    let answered := Registry.source ⟨[⟨Text.of "x", .program, Text.of "p", []⟩]⟩ host []
    let history := [⟨Text.of "x a", []⟩]
    let editor := (started .standard [] .standard none).setHistory history
    let events := pressed listed [.typed 'x', .typed ' ', .plain .tab, .control 'w']
    (∀ item ∈ history, item.command.OnOneLine) ∧ listed.StaysOnLine ∧
      (editor.run events).ring.entries = [Text.of "a"] ∧
      (editor.run events).buffer.draft.OnOneLine ∧
      (∀ entry ∈ (editor.run events).ring.entries, entry.OnOneLine) ∧
      (editor.run events).search.query.OnOneLine ∧ ¬ answered.StaysOnLine ∧
      ∃ keys, ¬ (editor.run (pressed answered keys)).buffer.draft.OnOneLine := by
  intro host listed answered history editor events
  have lines : ∀ item ∈ history, item.command.OnOneLine := by decide
  have stays : listed.StaysOnLine :=
    Registry.staysOnLine_source (by decide)
      (List.forall_mem_singleton.2 (Spec.staysOnLine_of_wordList rfl (by decide) host)) []
  have strays : ¬ answered.StaysOnLine := by
    intro single
    have value := single (Text.of "x ") 2 (by decide) (by decide)
      (.ofValue (Text.of "a\tb")) (by decide +kernel)
    exact absurd value (by decide)
  have new : (started .standard [] .standard none).setHistory history = editor := rfl
  obtain ⟨kept, broken⟩ := draft_onOneLine_run .standard [] .standard none lines
  rw [new] at kept broken
  have stay : ∀ event ∈ events, event.1.StaysOnLine := by
    intro event member
    obtain ⟨key, _, rfl⟩ := List.mem_map.1 member
    exact stays
  obtain ⟨draft, entries, query⟩ := kept events stay
  exact ⟨lines, stays, by decide, draft, entries, query, strays, broken rfl answered strays⟩

/-- A program that writes a tab into a JSON string brings it into the draft. -/
theorem draft_with_tab :
    let host : CompletionHost := ⟨fun _ _ => some (Text.of "[\"a\\tb\"]"), none⟩
    let source := Registry.source ⟨[⟨Text.of "x", .program, Text.of "p", []⟩]⟩ host []
    let editor := started .standard [] .standard none
    let after := editor.run (pressed source [.typed 'x', .typed ' ', .plain .tab])
    editor.Reachable ∧ editor.history = [] ∧ after.buffer.draft = Text.of "x a\tb" ∧
      ¬ after.buffer.draft.OnOneLine := by
  intro host source editor after
  exact ⟨.started _ _ _ _, rfl, by decide +kernel, by decide +kernel⟩

end Editor

end Promptline
