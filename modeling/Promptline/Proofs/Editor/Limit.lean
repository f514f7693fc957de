/-
This file says when the draft keeps to its limit. An edit cuts the text that it brings in, but a
recalled command that is too long becomes the draft with all that the edit leaves of it.
-/

import Promptline.Proofs.Editor.Escape
import Promptline.Proofs.Editor.KillChain
import Promptline.Proofs.Editor.Pasting
import Promptline.Proofs.Editor.Provenance

namespace Promptline

namespace LineBuffer

section Limit

variable {buffer : LineBuffer} {limit : Nat}

theorem length_cut_le_limit (limited : buffer.limit? = some limit) (text : Text) :
    (cut buffer.limit? text).length ≤ limit := by
  rw [limited, cut, List.length_take]
  exact Nat.min_le_left _ _

/-- A text goes in only as far as the limit allows, so a line that is longer afterwards was longer
before and has lost a part. -/
theorem Replaces.length_draft {operation : Operation} {edit : Replacement} {after : LineBuffer}
    (replaces : buffer.Replaces operation edit after) (limited : buffer.limit? = some limit) :
    after.draft.length ≤ limit ∨ after.draft.length ≤ buffer.length := by
  have ordered := replaces.ordered
  have inside := replaces.inside
  have room : (buffer.accepted edit).length ≤
      limit - (buffer.length - (edit.stop - edit.start)) := by
    simp only [accepted, limited, List.length_take]
    exact Nat.min_le_left _ _
  rw [replaces.draft_eq]
  simp only [List.length_append, List.length_take, List.length_drop]
  simp only [length] at inside room ⊢
  omega

/-- An operation leaves the draft alone, or makes the text on display the draft with a change that
keeps to the limit or to the length of that text. -/
theorem draft_perform (inside : buffer.cursor ≤ buffer.length)
    (limited : buffer.limit? = some limit) (operation : Operation) :
    let after := buffer.perform operation
    after.draft = buffer.draft ∨
      after.selected = 0 ∧
        (after.draft.length ≤ limit ∨ after.draft.length ≤ buffer.length) := by
  dsimp only
  cases asked : buffer.edit? operation with
  | none => exact .inl (draft_perform_of_not_edit asked).1
  | some edit =>
      have edited := edited_of_edit? inside asked
      cases denied : (buffer.report operation).deniesChange with
      | true => exact .inl (congrArg draft (edited.idle denied).1)
      | false =>
          obtain ⟨replaces, _⟩ := edited.replaces denied
          exact .inr ⟨replaces.selected_eq, replaces.length_draft limited⟩

end Limit

/-- What is on display and is not the draft is an entry. -/
theorem Bounded.shown_mem {buffer : LineBuffer} (bounded : buffer.Bounded)
    (recalled : buffer.selected ≠ 0) : buffer.shown ∈ buffer.entries := by
  obtain ⟨index, counted⟩ := Nat.exists_eq_succ_of_ne_zero recalled
  have known := bounded.selected_le
  rw [counted, Nat.succ_le_iff] at known
  have shown : buffer.shown = buffer.entries[index] := by
    simp [LineBuffer.shown, counted, known]
  rw [shown]
  exact List.getElem_mem known

theorem shown_select {buffer : LineBuffer} {index : Nat} {entry : Text}
    (listed : buffer.entries[index]? = some entry) : (buffer.select (index + 1)).shown = entry := by
  simp [select, shown, listed]

/-- A kill of all that is in front of a cursor at the end takes the whole text. -/
theorem taken_toLineStart {buffer : LineBuffer} (ends : buffer.cursor = buffer.length)
    (filled : buffer.shown ≠ []) :
    (Editor.taken buffer .toLineStart).1.selected = 0 ∧
      (Editor.taken buffer .toLineStart).2 ≠ [] := by
  have longer : 0 < buffer.cursor := by
    rw [ends]
    exact List.length_pos_iff.2 filled
  have inside := Nat.le_of_eq ends
  have taken : Editor.taken buffer .toLineStart = buffer.remove 0 buffer.cursor := by
    simp only [Editor.taken, Editor.killed?, killToStart?, kill?, Nat.not_le.2 longer, if_false,
      Option.getD_some]
  rw [taken, remove_eq_write inside longer inside]
  exact ⟨rfl, slice_ne_nil longer inside⟩

/-- Where the line is full nothing goes in. -/
theorem cut_of_full {buffer : LineBuffer} {limit : Nat} (limited : buffer.limit? = some limit)
    (full : limit ≤ buffer.length) (text : Text) : cut (buffer.room? 0) text = [] := by
  have nothing : limit - (buffer.length - 0) = 0 := by omega
  simp only [room?, limited, Option.map_some, nothing, cut, List.take_zero]

end LineBuffer

namespace Editor

/-- No event changes what the line can recall. -/
theorem bufferEntries_run (editor : Editor) (events : List (Source × Event)) :
    (editor.run events).buffer.entries = editor.buffer.entries := by
  induction events generalizing editor with
  | nil => rfl
  | cons event rest inductionHypothesis =>
      rw [run, inductionHypothesis]
      exact (editor.edits_apply event.1 event.2).entries

section Limit

variable {editor : Editor} {limit : Nat}

/-- What an action leaves behind keeps to the limit or to the length of the text on display. -/
theorem Leaves.draft {source : Source} {action : Action} {after : LineBuffer}
    (leaves : editor.Leaves source action after)
    (inside : editor.buffer.cursor ≤ editor.buffer.length)
    (limited : editor.buffer.limit? = some limit) :
    after.draft = editor.buffer.draft ∨
      after.selected = 0 ∧
        (after.draft.length ≤ limit ∨ after.draft.length ≤ editor.buffer.length) := by
  cases leaves with
  | same => exact .inl rfl
  | performed operation => exact LineBuffer.draft_perform inside limited operation
  | restored held => exact .inr ⟨rfl, .inl (LineBuffer.length_cut_le_limit limited _)⟩

/-- So does what an event leaves behind. -/
theorem draft_apply (inside : editor.buffer.cursor ≤ editor.buffer.length)
    (limited : editor.buffer.limit? = some limit) (source : Source) (event : Event) :
    let after := (editor.apply source event).1.buffer
    after.draft = editor.buffer.draft ∨
      after.selected = 0 ∧
        (after.draft.length ≤ limit ∨ after.draft.length ≤ editor.buffer.length) := by
  dsimp only
  cases event with
  | key key =>
      simp only [apply]
      split
      · exact .inl rfl
      next action _ =>
        exact ((editor.prepare action).leaves_handle source action).draft inside limited
  | paste text =>
      rw [apply, buffer_paste]
      split
      · exact .inl rfl
      · exact LineBuffer.draft_perform inside limited _
  | resize size => exact .inl rfl

/-- The event makes a recalled command the draft and leaves more of it than the limit allows. -/
structure Overruns (editor : Editor) (limit : Nat) (command : Text) (source : Source)
    (event : Event) : Prop where
  recalled : editor.buffer.selected ≠ 0
  shown_eq : editor.buffer.shown = command
  written : (editor.apply source event).1.buffer.selected = 0
  left : limit < (editor.apply source event).1.buffer.draft.length
  left_le : (editor.apply source event).1.buffer.draft.length ≤ command.length

/-- One of the events overruns the limit with a command of at least the given length. -/
def OverrunsAmong (editor : Editor) (limit length : Nat) (events : List (Source × Event)) : Prop :=
  ∃ item ∈ editor.history, length ≤ item.command.length ∧
    ∃ done source event rest, events = done ++ (source, event) :: rest ∧
      (editor.run done).Overruns limit item.command source event

theorem OverrunsAmong.append {length : Nat} {events : List (Source × Event)}
    (overruns : editor.OverrunsAmong limit length events) {shorter : Nat}
    (fewer : shorter ≤ length) (more : List (Source × Event)) :
    editor.OverrunsAmong limit shorter (events ++ more) := by
  obtain ⟨item, listed, bound, done, source, event, rest, rfl, beyond⟩ := overruns
  exact ⟨item, listed, Nat.le_trans fewer bound, done, source, event, rest ++ more, by simp, beyond⟩

/-- A draft beyond the limit is what is left of a recalled command. -/
theorem Reachable.overrunsAmong (reachable : editor.Reachable)
    (limited : editor.buffer.limit? = some limit)
    (within : editor.buffer.draft.length ≤ limit) {events : List (Source × Event)}
    (longer : limit < (editor.run events).buffer.draft.length) :
    editor.OverrunsAmong limit (editor.run events).buffer.draft.length events := by
  induction events using List.reverseRecOn with
  | nil => exact absurd longer (Nat.not_lt.2 within)
  | append_singleton events last inductionHypothesis =>
      obtain ⟨source, event⟩ := last
      have bounded := (reachable.run events).line.bounded
      rw [run_append] at longer ⊢
      change limit < ((editor.run events).apply source event).1.buffer.draft.length at longer
      change editor.OverrunsAmong limit
        ((editor.run events).apply source event).1.buffer.draft.length _
      -- What is no longer than the draft before it goes back to the same command.
      have back (shorter : ((editor.run events).apply source event).1.buffer.draft.length ≤
          (editor.run events).buffer.draft.length) :=
        (inductionHypothesis (Nat.lt_of_lt_of_le longer shorter)).append shorter [(source, event)]
      rcases draft_apply bounded.cursor_le ((editor.limit?_run events).trans limited) source event
        with same | ⟨written, length⟩
      · exact back (Nat.le_of_eq (congrArg List.length same))
      · have shorter := length.resolve_left (Nat.not_le.2 longer)
        by_cases current : (editor.run events).buffer.selected = 0
        · rw [LineBuffer.length, LineBuffer.shown_eq_draft current] at shorter
          exact back shorter
        · have listed := bounded.shown_mem current
          rw [editor.bufferEntries_run events, reachable.consistent.mirrored] at listed
          obtain ⟨item, member, same⟩ := List.mem_map.1 listed
          rw [LineBuffer.length, ← same] at shorter
          exact ⟨item, member, shorter, events, source, event, [], rfl,
            current, same.symm, written, longer, shorter⟩

end Limit

section Recall

variable {editor : Editor}

theorem apply_older (editing : editor.mode = .edit)
    (more : editor.buffer.selected < editor.buffer.entries.length) (source : Source) :
    (editor.apply source (.key (.plain .up))).1 =
      editor.entered (editor.buffer.select (editor.buffer.selected + 1)) := by
  have older : editor.buffer.older? = some (editor.buffer.select (editor.buffer.selected + 1)) :=
    if_neg (Nat.not_le.2 more)
  have kept : (editor.prepare .historyOlder).buffer = editor.buffer := rfl
  have bound : (Key.plain .up).editAction? = some .historyOlder := rfl
  rw [apply_of_editing editing bound]
  simp only [perform, handle, kept, older]
  rfl

/-- Each press goes one entry back. -/
theorem run_older (editing : editor.mode = .edit) (source : Source) {count : Nat}
    (known : editor.buffer.selected + (count + 1) ≤ editor.buffer.entries.length) :
    editor.run (pressed source (List.replicate (count + 1) (.plain .up))) =
      editor.entered (editor.buffer.select (editor.buffer.selected + (count + 1))) := by
  induction count generalizing editor with
  | zero => exact apply_older editing known source
  | succ count inductionHypothesis =>
      have first := apply_older editing (by omega) source
      rw [List.replicate_succ, pressed, List.map_cons, run, first]
      have counted : editor.buffer.selected + 1 + (count + 1) =
          editor.buffer.selected + (count + 1 + 1) := by omega
      have still : (editor.entered (editor.buffer.select (editor.buffer.selected + 1))).mode =
          .edit := editing
      have rest : (editor.entered (editor.buffer.select (editor.buffer.selected + 1))).run
            (pressed source (List.replicate (count + 1) (.plain .up))) =
          editor.entered (editor.buffer.select (editor.buffer.selected + 1 + (count + 1))) :=
        inductionHypothesis still (counted ▸ known)
      rw [counted] at rest
      exact rest

/-- No event changes how much the ring can hold. -/
theorem capacity_run (editor : Editor) (events : List (Source × Event)) :
    (editor.run events).ring.capacity = editor.ring.capacity := by
  induction events generalizing editor with
  | nil => rfl
  | cons event rest inductionHypothesis =>
      obtain ⟨source, event⟩ := event
      rw [run, inductionHypothesis]
      cases event with
      | key key =>
          simp only [apply]
          split
          · rfl
          next action _ =>
            exact ((editor.prepare action).handles source action).capacity_eq.trans
              (editor.capacity_prepare action)
      | paste text =>
          simp only [apply, paste]
          split <;> rfl
      | resize size => rfl

/-- Outside the search the draft is on display, and the ring holds some texts. -/
structure Ready (editor : Editor) (held : Nat) : Prop where
  editing : editor.mode = .edit
  current : editor.buffer.selected = 0
  held_le : held ≤ editor.ring.entries.length

/-- Two interrupts lead out of the search and clear the line. -/
theorem ready_of_interrupts (editor : Editor) (source : Source) :
    (editor.run (pressed source [.control 'c', .control 'c'])).Ready 0 := by
  have interrupt : (Key.control 'c').editAction? = some .interrupt := rfl
  have cleared {editor : Editor} (editing : editor.mode = .edit) :
      (editor.apply source (.key (.control 'c'))).1.Ready 0 := by
    rw [apply_of_editing editing interrupt]
    have inactive := mode_eq_edit_iff.1 editing
    refine ⟨mode_eq_edit_iff.2 ?_, rfl, Nat.zero_le _⟩
    simp only [perform, handle, resetLine, prepare, inactive, Bool.false_eq_true, if_false]
  cases mode : editor.mode with
  | edit => exact cleared (cleared mode).editing
  | search =>
      have cancel : (Key.control 'c').action? editor.mode = some (.search .cancel) := by
        rw [mode]
        rfl
      refine cleared (mode_eq_edit_iff.2 ?_)
      simp only [apply, cancel, perform, handle, searchWith]
      split
      next idle => simpa [prepare] using idle
      · rfl

/-- The keys that recall the entry with the index. -/
def recalling (index : Nat) : List Key := List.replicate (index + 1) (.plain .up)

theorem Ready.recall {held : Nat} (ready : editor.Ready held) {index : Nat} {entry : Text}
    (listed : editor.buffer.entries[index]? = some entry) (source : Source) :
    editor.run (pressed source (recalling index)) =
      editor.entered (editor.buffer.select (index + 1)) := by
  obtain ⟨known, _⟩ := List.getElem?_eq_some_iff.1 listed
  have more : editor.buffer.selected + (index + 1) ≤ editor.buffer.entries.length := by
    rw [ready.current]
    omega
  have recalled := run_older ready.editing source more
  rw [ready.current, Nat.zero_add] at recalled
  exact recalled

/-- A kill of a whole line that has text adds that text to the ring. -/
theorem ready_kill (editing : editor.mode = .edit)
    (ends : editor.buffer.cursor = editor.buffer.length) (filled : editor.buffer.shown ≠ [])
    (broken : editor.ring.chain? = none) {held : Nat} (held_le : held ≤ editor.ring.entries.length)
    (room : held < editor.ring.capacity) (source : Source) :
    (editor.run (pressed source [.control 'u'])).Ready (held + 1) := by
  have bound : (Key.control 'u').editAction? = some (.kill .toLineStart) := rfl
  obtain ⟨still, line, ring⟩ := apply_kill editing bound source
  obtain ⟨current, killed⟩ := LineBuffer.taken_toLineStart ends filled
  have apart : editor.ring.clearYanked.chain? ≠ some (killDirection .toLineStart) := by
    simp [KillRing.clearYanked, broken]
  refine ⟨still, (congrArg LineBuffer.selected line).trans current, ?_⟩
  have entries := congrArg KillRing.entries ring
  rw [KillRing.entries_record_of_not_chain killed apart] at entries
  change held + 1 ≤ (editor.apply source _).1.ring.entries.length
  rw [entries, List.length_take, List.length_cons]
  change held + 1 ≤ min editor.ring.capacity (editor.ring.entries.length + 1)
  omega

/-- A recalled entry is killed. -/
theorem Ready.kill {held : Nat} (ready : editor.Ready held) {index : Nat} {entry : Text}
    (listed : editor.buffer.entries[index]? = some entry) (filled : entry ≠ [])
    (room : held < editor.ring.capacity) (source : Source) :
    (editor.run (pressed source (recalling index ++ [.control 'u']))).Ready (held + 1) := by
  have still : (editor.entered (editor.buffer.select (index + 1))).mode = .edit := ready.editing
  rw [← LineBuffer.shown_select listed] at filled
  rw [run_pressed_append, ready.recall listed source]
  exact ready_kill still rfl filled rfl ready.held_le room source

/-- A yank and an exchange put nothing into a full line, but they make it the draft. -/
theorem draft_exchange (editing : editor.mode = .edit)
    (inside : editor.buffer.cursor ≤ editor.buffer.length) {limit : Nat}
    (limited : editor.buffer.limit? = some limit) (full : limit ≤ editor.buffer.length)
    (several : 1 < editor.ring.entries.length) (source : Source) :
    (editor.run (pressed source [.control 'y', .alt 'y'])).buffer.draft =
      editor.buffer.shown := by
  have yanks : (Key.control 'y').editAction? = some .yank := rfl
  have pops : (Key.alt 'y').editAction? = some .yankPop := rfl
  obtain ⟨newest, older, entries⟩ : ∃ newest older, editor.ring.entries = newest :: older :=
    List.exists_cons_of_ne_nil (List.length_pos_iff.1 (Nat.lt_of_succ_lt several))
  obtain ⟨still, line, ring⟩ := apply_yank editing yanks source entries
  have nothing : editor.buffer.insert newest = (editor.buffer, 0) := by
    simp only [LineBuffer.insert, LineBuffer.cut_of_full limited full, if_true]
  rw [nothing] at line ring
  change ((editor.apply source _).1.apply source _).1.buffer.draft = _
  generalize (editor.apply source (.key (.control 'y'))).1 = yanked at still line ring ⊢
  have spanned : yanked.ring.yanked? = some (editor.buffer.cursor, editor.buffer.cursor) :=
    congrArg KillRing.yanked? ring
  have held : 1 < yanked.ring.entries.length := by
    rw [ring]
    exact several
  obtain ⟨_, exchanged, _⟩ := apply_yankPop_of_span still pops source spanned held
  rw [line] at exchanged
  have shown := congrArg LineBuffer.shown exchanged
  rw [LineBuffer.shown_replace _ _ (Nat.le_refl _) inside, Nat.sub_self,
    LineBuffer.cut_of_full limited full, List.append_nil, List.take_append_drop] at shown
  have current := congrArg LineBuffer.selected exchanged
  exact (LineBuffer.shown_eq_draft current).symm.trans shown

/-- With two texts in the ring an entry that fills the line becomes the draft. -/
theorem Ready.exchange (ready : editor.Ready 2) {limit : Nat}
    (limited : editor.buffer.limit? = some limit) {index : Nat} {entry : Text}
    (listed : editor.buffer.entries[index]? = some entry) (full : limit ≤ entry.length)
    (source : Source) :
    (editor.run (pressed source (recalling index ++ [.control 'y', .alt 'y']))).buffer.draft =
      entry := by
  have shown := LineBuffer.shown_select listed
  have still : (editor.entered (editor.buffer.select (index + 1))).mode = .edit := ready.editing
  rw [← shown] at full
  rw [run_pressed_append, ready.recall listed source]
  exact (draft_exchange still (Nat.le_refl _) limited full ready.held_le source).trans shown

/-- An entry beyond the limit becomes the draft. -/
theorem Ready.exists_keys (ready : editor.Ready 0) (several : 1 < editor.ring.capacity)
    {limit : Nat} (limited : editor.buffer.limit? = some limit) {index : Nat} {entry : Text}
    (listed : editor.buffer.entries[index]? = some entry) (longer : limit < entry.length)
    (source : Source) : ∃ keys, (editor.run (pressed source keys)).buffer.draft = entry := by
  have filled : entry ≠ [] := List.ne_nil_of_length_pos (Nat.zero_lt_of_lt longer)
  let kill := recalling index ++ [.control 'u']
  -- The entry is killed twice, and then an exchange on a yank of nothing writes it down.
  refine ⟨kill ++ (kill ++ (recalling index ++ [.control 'y', .alt 'y'])), ?_⟩
  have first := ready.kill listed filled (Nat.zero_lt_of_lt several) source
  rw [← editor.bufferEntries_run (pressed source kill)] at listed
  rw [← editor.capacity_run (pressed source kill)] at several
  rw [← editor.limit?_run (pressed source kill)] at limited
  have second := first.kill listed filled several source
  rw [← bufferEntries_run _ (pressed source kill)] at listed
  rw [← limit?_run _ (pressed source kill)] at limited
  rw [run_pressed_append, run_pressed_append]
  exact second.exchange limited listed (Nat.le_of_lt longer) source

end Recall

/-- From a draft within the limit a run stays there, unless one of its events overruns the limit
with a recalled command. If the ring can hold two texts, every command beyond the limit can become
the draft as a whole. -/
theorem Reachable.length_draft_run {editor : Editor} (reachable : editor.Reachable) {limit : Nat}
    (limited : editor.buffer.limit? = some limit)
    (within : editor.buffer.draft.length ≤ limit) :
    (∀ events, let draft := (editor.run events).buffer.draft
      draft.length ≤ limit ∨ editor.OverrunsAmong limit draft.length events) ∧
      (1 < editor.ring.capacity → ∀ item ∈ editor.history, limit < item.command.length →
        ∀ source, ∃ keys, (editor.run (pressed source keys)).buffer.draft = item.command) := by
  constructor
  · intro events draft
    exact (Nat.lt_or_ge limit draft.length).symm.imp_right (reachable.overrunsAmong limited within)
  · intro several item member longer source
    have listed : item.command ∈ editor.buffer.entries := by
      rw [reachable.consistent.mirrored]
      exact List.mem_map_of_mem member
    obtain ⟨index, found⟩ := List.mem_iff_getElem?.1 listed
    have ready := editor.ready_of_interrupts source
    rw [← editor.capacity_run (pressed source [.control 'c', .control 'c'])] at several
    rw [← editor.limit?_run (pressed source [.control 'c', .control 'c'])] at limited
    rw [← editor.bufferEntries_run (pressed source [.control 'c', .control 'c'])] at found
    obtain ⟨keys, draft⟩ := ready.exists_keys several limited found longer source
    refine ⟨[.control 'c', .control 'c'] ++ keys, ?_⟩
    rw [run_pressed_append]
    exact draft

/-- A deletion overruns the limit with a command of five characters, which can become the draft. -/
theorem length_draft_run_of_long_command :
    let source := Source.onEmptyLine (Text.of "x")
    let editor := small (some 3) [Text.of "hello"]
    let typed := pressed source [.typed 'a', .typed 'b', .typed 'c', .typed 'd']
    let recalled := pressed source [.plain .up, .plain .backspace]
    editor.Reachable ∧ editor.buffer.limit? = some 3 ∧ editor.buffer.draft.length ≤ 3 ∧
      1 < editor.ring.capacity ∧ (editor.run typed).buffer.draft = Text.of "abc" ∧
      (editor.run recalled).buffer.draft = Text.of "hell" ∧
      editor.OverrunsAmong 3 4 recalled ∧
      ∃ keys, (editor.run (pressed source keys)).buffer.draft = Text.of "hello" := by
  intro source editor typed recalled
  have reachable : editor.Reachable := reachable_small _ _
  obtain ⟨each, whole⟩ := reachable.length_draft_run rfl (Nat.zero_le 3)
  have shortened : (editor.run recalled).buffer.draft = Text.of "hell" := by decide
  have overruns : editor.OverrunsAmong 3 4 recalled := by
    have beyond := each recalled
    rw [shortened] at beyond
    exact beyond.resolve_left (by decide)
  exact ⟨reachable, rfl, by decide, by decide, by decide, shortened, overruns,
    whole (by decide) ⟨Text.of "hello", []⟩ (List.mem_singleton.2 rfl) (by decide) source⟩

/-- A deletion in a recalled command leaves a draft beyond the limit. -/
theorem draft_beyond_limit :
    let source := Source.onEmptyLine (Text.of "x")
    let editor := small (some 3) [Text.of "hello"]
    let after := editor.run (pressed source [.plain .up, .plain .backspace])
    editor.Reachable ∧ editor.options.limit? = some 3 ∧ editor.buffer.draft = [] ∧
      after.buffer.draft = Text.of "hell" ∧ ¬ after.buffer.draft.length ≤ 3 := by
  intro source editor after
  exact ⟨reachable_small _ _, rfl, rfl, by decide, by decide⟩

end Editor

end Promptline
