/-
This file follows a yank and the presses that exchange it for older entries. One entry at a time
stands between the two parts of the line, and any other command ends the exchange.
-/

import Promptline.Proofs.Editor.Consistency

namespace Promptline

/-- The event is the key that exchanges a yank for an older entry. -/
def Event.pops : Event → Bool
  | .key pressed => pressed.editAction? = some .yankPop
  | _ => false

namespace Key

theorem controlEdit?_ne_yankPop (c : Char) : controlEdit? c ≠ some .yankPop := by
  unfold controlEdit?
  split <;> simp

theorem plainEdit?_ne_yankPop (shift : Bool) (code : KeyCode) :
    plainEdit? shift code ≠ some .yankPop := by
  cases code with
  | char c =>
      simp only [plainEdit?]
      split <;> simp
  | tab => cases shift <;> simp [plainEdit?]
  | _ => simp [plainEdit?]

/-- The key of the exchange has the alt modifier, so it has no binding in the search. -/
theorem action?_search_of_yankPop {key : Key} (bound : key.editAction? = some .yankPop) :
    key.action? .search = none := by
  simp only [editAction?] at bound
  simp only [action?, searchAction?]
  split at bound
  · split at bound
    · exact absurd bound (controlEdit?_ne_yankPop _)
    · simp at bound
  next released =>
    split at bound
    next alt => simp [released, alt]
    · exact absurd bound (plainEdit?_ne_yankPop _ _)

end Key

theorem Event.Waits.pops_eq_false {event : Event} (waits : event.Waits .edit) :
    event.pops = false := by
  cases waits with
  | unbound free =>
      apply decide_eq_false
      intro bound
      exact Option.some_ne_none _ (bound.symm.trans free)
  | resize size => rfl

theorem Event.exists_key_of_pops {event : Event} (pops : event.pops = true) :
    ∃ key : Key, event = .key key ∧ key.editAction? = some .yankPop := by
  cases event with
  | key pressed => exact ⟨pressed, rfl, of_decide_eq_true pops⟩
  | paste text => simp [Event.pops] at pops
  | resize size => simp [Event.pops] at pops

namespace KillRing

/-- The entry that some steps from the newest one lead to, round and round the ring. -/
def entryAt (ring : KillRing) (steps : Nat) : Text :=
  ring.entries.getD (steps % ring.entries.length) []

theorem yanked?_record {ring : KillRing} (unyanked : ring.yanked? = none)
    (direction : KillDirection) (text : Text) : (ring.record direction text).yanked? = none := by
  simp only [record]
  split
  · exact unyanked
  · rfl

end KillRing

namespace Editor

/-- A yank key inserts the newest entry. -/
theorem apply_yank {editor : Editor} (editing : editor.mode = .edit) {key : Key}
    (bound : key.editAction? = some .yank) (source : Source) {newest : Text} {older : List Text}
    (held : editor.ring.entries = newest :: older) :
    let after := (editor.apply source (.key key)).1
    let inserted := editor.buffer.insert newest
    after.mode = .edit ∧ after.buffer = inserted.1 ∧
      after.ring =
        { editor.ring.breakChain with
          rotation := 0
          yanked? := some (editor.buffer.cursor, editor.buffer.cursor + inserted.2) } := by
  have front : (editor.prepare .yank).ring.yank? =
      some ({ editor.ring.breakChain with rotation := 0 }, newest) := by
    have kept : (editor.prepare .yank).ring = editor.ring.breakChain := rfl
    have first : editor.ring.breakChain.entries = newest :: older := held
    simp only [kept, KillRing.yank?, first]
  dsimp only
  rw [apply_of_editing editing bound]
  simp only [perform, handle, yank, front]
  exact ⟨editing, rfl, rfl⟩

/-- The key of the exchange does nothing without a yank, or with one entry only. -/
theorem apply_yankPop_of_nothing {editor : Editor} (editing : editor.mode = .edit) {key : Key}
    (bound : key.editAction? = some .yankPop) (source : Source)
    (nothing : editor.ring.yanked? = none ∨ editor.ring.entries.length ≤ 1) :
    let after := (editor.apply source (.key key)).1
    after.mode = .edit ∧ after.buffer = editor.buffer ∧ after.ring = editor.ring.breakChain := by
  have none : (editor.prepare .yankPop).ring.yankPop? = none := by
    have kept : (editor.prepare .yankPop).ring = editor.ring.breakChain := rfl
    rw [kept, KillRing.yankPop?]
    split
    · rfl
    next span spanned =>
      have single : editor.ring.breakChain.entries.length ≤ 1 :=
        nothing.resolve_left fun unyanked => by
          change editor.ring.yanked? = some span at spanned
          simp [unyanked] at spanned
      rw [if_pos single]
  dsimp only
  rw [apply_of_editing editing bound]
  simp only [perform, handle, yankPop, none]
  exact ⟨editing, rfl, rfl⟩

/-- The key of the exchange replaces the yanked span by the next older entry. -/
theorem apply_yankPop_of_span {editor : Editor} (editing : editor.mode = .edit) {key : Key}
    (bound : key.editAction? = some .yankPop) (source : Source) {start stop : Nat}
    (spanned : editor.ring.yanked? = some (start, stop))
    (several : 1 < editor.ring.entries.length) :
    let after := (editor.apply source (.key key)).1
    let rotation := (editor.ring.rotation + 1) % editor.ring.entries.length
    let replaced := editor.buffer.replace start stop (editor.ring.entries.getD rotation [])
    after.mode = .edit ∧ after.buffer = replaced.1 ∧
      after.ring =
        { editor.ring.breakChain with rotation, yanked? := some (start, replaced.2) } := by
  have next : (editor.prepare .yankPop).ring.yankPop? =
      let rotation := (editor.ring.rotation + 1) % editor.ring.entries.length
      some ({ editor.ring.breakChain with rotation }, (start, stop),
        editor.ring.entries.getD rotation []) := by
    have kept : (editor.prepare .yankPop).ring = editor.ring.breakChain := rfl
    have span : editor.ring.breakChain.yanked? = some (start, stop) := spanned
    have more : ¬ editor.ring.breakChain.entries.length ≤ 1 := Nat.not_le.2 several
    simp only [kept, KillRing.yankPop?, span, more, if_false]
    rfl
  dsimp only
  rw [apply_of_editing editing bound]
  simp only [perform, handle, yankPop, next]
  exact ⟨editing, rfl, rfl⟩

/-- After a yank at the start and some exchanges an entry stands between the parts of the line. -/
structure Yanked (start : Editor) (left right : Text) (steps : Nat) (after : Editor) : Prop where
  editing : after.mode = .edit
  limit_eq : after.buffer.limit? = start.buffer.limit?
  entries_eq : after.ring.entries = start.ring.entries
  turned : after.ring.rotation = steps % start.ring.entries.length
  shows : after.buffer.Shows left
    (LineBuffer.fitting start.buffer.limit? left right (start.ring.entryAt steps)) right
  spanned : after.ring.yanked? = some (left.length, after.buffer.cursor)

/-- The yank puts the newest entry between the parts. -/
theorem yanked_start {editor : Editor} (inside : editor.buffer.cursor ≤ editor.buffer.length)
    (editing : editor.mode = .edit) (held : editor.ring.entries ≠ []) {key : Key}
    (bound : key.editAction? = some .yank) (source : Source) :
    Yanked editor (editor.buffer.shown.take editor.buffer.cursor)
      (editor.buffer.shown.drop editor.buffer.cursor) 0 (editor.apply source (.key key)).1 := by
  obtain ⟨newest, older, entries⟩ := List.exists_cons_of_ne_nil held
  obtain ⟨mode, line, ring⟩ := apply_yank editing bound source entries
  have around := LineBuffer.shows_around_cursor inside
  obtain ⟨shows, count⟩ := around.insert newest
  have first : editor.ring.entryAt 0 = newest := by
    simp only [KillRing.entryAt, entries, Nat.zero_mod, List.getD_cons_zero]
  have place : editor.buffer.cursor = (editor.buffer.shown.take editor.buffer.cursor).length := by
    simpa only [List.append_nil] using around.cursor_eq
  refine ⟨mode, ?_, ?_, ?_, ?_, ?_⟩
  · rw [line]
    exact (LineBuffer.Edits.refl.perform (.insert newest) rfl).limit?
  · rw [ring]
    rfl
  · rw [ring, Nat.zero_mod]
  · rw [line, first]
    exact shows
  · rw [ring, line, shows.cursor_eq, List.length_append, count, ← place]

/-- Another exchange steps to the next older entry. -/
theorem Yanked.pop {start editor : Editor} {left right : Text} {steps : Nat}
    (yanked : Yanked start left right steps editor) (held : start.ring.entries ≠ []) {key : Key}
    (bound : key.editAction? = some .yankPop) (source : Source) :
    Yanked start left right (steps + 1) (editor.apply source (.key key)).1 := by
  have counted := List.length_pos_iff.2 held
  -- With a single entry the key does nothing, and every number of steps leads to that entry.
  by_cases several : 1 < start.ring.entries.length
  · have several' : 1 < editor.ring.entries.length := by
      rw [yanked.entries_eq]
      exact several
    obtain ⟨mode, line, ring⟩ :=
      apply_yankPop_of_span yanked.editing bound source yanked.spanned several'
    have next : (editor.ring.rotation + 1) % editor.ring.entries.length =
        (steps + 1) % start.ring.entries.length := by
      rw [yanked.entries_eq, yanked.turned, Nat.mod_add_mod]
    rw [next] at line ring
    have entry : editor.ring.entries.getD ((steps + 1) % start.ring.entries.length) [] =
        start.ring.entryAt (steps + 1) := by
      rw [yanked.entries_eq, KillRing.entryAt]
    rw [entry] at line ring
    obtain ⟨shows, atCursor⟩ := LineBuffer.replace_between yanked.shows.shown_eq
      (start.ring.entryAt (steps + 1))
    rw [← yanked.shows.cursor_eq, ← line, yanked.limit_eq] at shows
    rw [← yanked.shows.cursor_eq, ← line] at atCursor
    refine ⟨mode, ?_, ?_, ?_, shows, ?_⟩
    · rw [line]
      exact yanked.limit_eq
    · rw [ring]
      exact yanked.entries_eq
    · rw [ring]
    · rw [ring, ← atCursor]
  · have single : editor.ring.entries.length ≤ 1 := by
      rw [yanked.entries_eq]
      omega
    obtain ⟨mode, line, ring⟩ :=
      apply_yankPop_of_nothing yanked.editing bound source (.inr single)
    have one : start.ring.entries.length = 1 := by omega
    have same : start.ring.entryAt (steps + 1) = start.ring.entryAt steps := by
      simp only [KillRing.entryAt, one, Nat.mod_one]
    refine ⟨mode, ?_, ?_, ?_, ?_, ?_⟩
    · rw [line]
      exact yanked.limit_eq
    · rw [ring]
      exact yanked.entries_eq
    · rw [ring, one, Nat.mod_one]
      exact yanked.turned.trans (by rw [one, Nat.mod_one])
    · rw [line, same]
      exact yanked.shows
    · rw [ring, line]
      exact yanked.spanned

/-- A run of exchanges steps once for each of them. -/
theorem Yanked.run {start editor : Editor} {left right : Text} {steps : Nat}
    (yanked : Yanked start left right steps editor) (held : start.ring.entries ≠ [])
    {events : List (Source × Event)}
    (exchanges : ∀ event ∈ events, event.2.Waits .edit ∨ event.2.pops = true) :
    Yanked start left right (steps + events.countP fun event => event.2.pops)
      (editor.run events) := by
  induction events generalizing editor steps with
  | nil => exact yanked
  | cons event rest inductionHypothesis =>
      obtain ⟨source, event⟩ := event
      have others := fun other member => exchanges other (List.mem_cons_of_mem _ member)
      rcases exchanges _ List.mem_cons_self with waits | pops
      · rw [List.countP_cons_of_neg (by simp [waits.pops_eq_false])]
        rw [← yanked.editing] at waits
        obtain ⟨size, resized⟩ := apply_of_waits waits source
        simp only [Editor.run, resized]
        refine inductionHypothesis ?_ others
        exact ⟨yanked.editing, yanked.limit_eq, yanked.entries_eq, yanked.turned, yanked.shows,
          yanked.spanned⟩
      · rw [List.countP_cons_of_pos (p := fun event : Source × Event => event.2.pops) pops,
          Nat.add_comm _ 1, ← Nat.add_assoc]
        obtain ⟨key, rfl, bound⟩ := Event.exists_key_of_pops pops
        exact inductionHypothesis (yanked.pop held bound source) others

/-- The event is another command, or a paste into the line. -/
inductive Interrupts (editor : Editor) : Event → Prop where
  | command {key : Key} {action : Action} (bound : key.action? editor.mode = some action)
      (other : action.isYank = false) : Interrupts editor (.key key)
  | paste (text : Text) (editing : editor.mode = .edit) : Interrupts editor (.paste text)

theorem Handles.yanked?_eq_none {editor after : Editor} {source : Source} {action : Action}
    (handles : editor.Handles source action after) (other : action.isYank = false)
    (unyanked : editor.ring.yanked? = none) : after.ring.yanked? = none := by
  cases handles with
  | kill kill => exact KillRing.yanked?_record unyanked _ _
  | yank yanks => simp [yanks] at other
  | submit => rfl
  | interrupt => rfl
  | _ => exact unyanked

/-- Another command ends the exchange. -/
theorem Interrupts.yanked?_eq_none {editor : Editor} {event : Event}
    (interrupts : editor.Interrupts event) (source : Source) :
    (editor.apply source event).1.ring.yanked? = none := by
  cases interrupts with
  | @command key action bound other =>
      simp only [apply, bound]
      refine ((editor.prepare action).handles source action).yanked?_eq_none other ?_
      simp only [prepare, other]
      split <;> rfl
  | paste text editing =>
      have inactive := mode_eq_edit_iff.1 editing
      simp only [Editor.apply, Editor.paste, inactive, Bool.false_eq_true, if_false]
      rfl

/-- Without a yank the key of the exchange leaves the line alone, and of the ring it ends the chain
of kills. -/
theorem apply_of_unyanked {editor : Editor} (unyanked : editor.ring.yanked? = none) {event : Event}
    (exchange : event.Waits editor.mode ∨ event.pops = true) (source : Source) :
    let after := (editor.apply source event).1
    after.mode = editor.mode ∧ after.buffer = editor.buffer ∧
      after.ring =
        if editor.mode = .edit ∧ event.pops = true then editor.ring.breakChain
        else editor.ring := by
  dsimp only
  have waiting (waits : event.Waits editor.mode) :
      (editor.apply source event).1.mode = editor.mode ∧
        (editor.apply source event).1.buffer = editor.buffer ∧
        (editor.apply source event).1.ring = editor.ring := by
    obtain ⟨size, resized⟩ := apply_of_waits waits source
    rw [resized]
    exact ⟨rfl, rfl, rfl⟩
  cases mode : editor.mode with
  | edit =>
      rcases exchange with waits | pops
      · obtain ⟨same, line, ring⟩ := waiting waits
        rw [mode] at waits same
        rw [if_neg (by simp [waits.pops_eq_false])]
        exact ⟨same, line, ring⟩
      · obtain ⟨key, rfl, bound⟩ := Event.exists_key_of_pops pops
        rw [if_pos ⟨rfl, pops⟩]
        exact apply_yankPop_of_nothing mode bound source (.inl unyanked)
  | search =>
      -- The event is an exchange by its binding outside the search, and here the key is free.
      have waits : event.Waits editor.mode := by
        rcases exchange with waits | pops
        · exact waits
        · obtain ⟨key, rfl, bound⟩ := Event.exists_key_of_pops pops
          rw [mode]
          exact .unbound (Key.action?_search_of_yankPop bound)
      obtain ⟨same, line, ring⟩ := waiting waits
      rw [if_neg fun both => nomatch both.1]
      exact ⟨same.trans mode, line, ring⟩

/-- One key of the exchange in a run of them ends the chain of kills, and the others do nothing. -/
theorem run_of_unyanked {editor : Editor} (unyanked : editor.ring.yanked? = none)
    {events : List (Source × Event)}
    (exchanges : ∀ event ∈ events, event.2.Waits editor.mode ∨ event.2.pops = true) :
    (editor.run events).buffer = editor.buffer ∧
      (editor.run events).ring =
        if editor.mode = .edit ∧ (events.any fun event => event.2.pops) = true then
          editor.ring.breakChain
        else editor.ring := by
  induction events generalizing editor with
  | nil => exact ⟨rfl, (if_neg fun both => Bool.false_ne_true both.2).symm⟩
  | cons event rest inductionHypothesis =>
      obtain ⟨mode, line, ring⟩ :=
        apply_of_unyanked unyanked (exchanges event List.mem_cons_self) event.1
      have still : (editor.apply event.1 event.2).1.ring.yanked? = none := by
        rw [ring]
        split
        · exact unyanked
        · exact unyanked
      have others := fun other member => exchanges other (List.mem_cons_of_mem event member)
      rw [← mode] at others
      obtain ⟨line', ring'⟩ := inductionHypothesis still others
      refine ⟨line'.trans line, ring'.trans ?_⟩
      rw [mode, ring, List.any_cons]
      -- A chain that has ended stays so, and outside the line there is none to end.
      by_cases editing : editor.mode = .edit
      · cases event.2.pops
        · simp only [Bool.false_or, Bool.false_eq_true, and_false, if_false]
        · simp only [editing, Bool.true_or, and_self, if_true]
          split <;> rfl
      · simp only [editing, false_and, if_false]

/-- A yank puts the newest entry at the cursor and each exchange the next older one, cut to the
room, and the ring keeps its entries. After any other command, or a paste into the line, the key of
the exchange leaves the line alone. It is a command itself, so outside the search it ends a chain of
kills, and that is all it does to the ring. -/
theorem Reachable.shown_yank_of_exchanges {editor : Editor} (reachable : editor.Reachable) :
    (editor.mode = .edit → editor.ring.entries ≠ [] → ∀ key : Key, key.editAction? = some .yank →
      ∀ source events, (∀ event ∈ events, event.2.Waits .edit ∨ event.2.pops = true) →
        let left := editor.buffer.shown.take editor.buffer.cursor
        let right := editor.buffer.shown.drop editor.buffer.cursor
        let steps := events.countP fun event => event.2.pops
        let after := (editor.apply source (.key key)).1.run events
        ∃ entry, editor.ring.entries[steps % editor.ring.entries.length]? = some entry ∧
          let inserted := LineBuffer.fitting editor.buffer.limit? left right entry
          after.buffer.shown = left ++ inserted ++ right ∧
            after.buffer.cursor = left.length + inserted.length ∧
            after.ring.entries = editor.ring.entries) ∧
      ∀ source event, editor.Interrupts event →
        let after := (editor.apply source event).1
        ∀ events, (∀ event ∈ events, event.2.Waits after.mode ∨ event.2.pops = true) →
          (after.run events).buffer = after.buffer ∧
            (after.run events).ring =
              if after.mode = .edit ∧ (events.any fun event => event.2.pops) = true then
                after.ring.breakChain
              else after.ring := by
  constructor
  · intro editing held key bound source events exchanges left right steps after
    have started := yanked_start reachable.line.bounded.cursor_le editing held bound source
    have yanked := started.run held exchanges
    rw [Nat.zero_add] at yanked
    have listed : steps % editor.ring.entries.length < editor.ring.entries.length :=
      Nat.mod_lt _ (List.length_pos_iff.2 held)
    have found : editor.ring.entries[steps % editor.ring.entries.length]? =
        some (editor.ring.entryAt steps) := by
      rw [KillRing.entryAt, List.getD_eq_getElem?_getD, List.getElem?_eq_getElem listed,
        Option.getD_some]
    refine ⟨_, found, yanked.shows.shown_eq, ?_, yanked.entries_eq⟩
    exact yanked.shows.cursor_eq.trans List.length_append
  · intro source event interrupts after events exchanges
    exact run_of_unyanked (interrupts.yanked?_eq_none source) exchanges

/-- With room for one character an exchange puts the start of the older entry in. A kill behind it
starts a chain, and then the key of the exchange only ends this chain. -/
theorem shown_yank_of_exchange :
    let source := Source.onEmptyLine (Text.of "x")
    let typed (c : Char) : Source × Event := (source, .key (.typed c))
    let killing : Source × Event := (source, .key (.control 'w'))
    let exchange : Source × Event := (source, .key (.alt 'y'))
    let editor := (small (some 4) []).run
      [typed 'a', killing, typed 'b', typed 'c', killing, typed 'x', typed 'y', typed 'z']
    let yanked := (editor.apply source (.key (.control 'y'))).1.run
      [exchange, (source, .resize ⟨9, 9⟩)]
    let killed := (yanked.apply source (.key (.control 'w'))).1
    editor.Reachable ∧ editor.mode = .edit ∧
      editor.ring.entries = [Text.of "bc", Text.of "a"] ∧
      yanked.buffer.shown = Text.of "xyza" ∧ yanked.buffer.cursor = 4 ∧
      yanked.ring.entries = [Text.of "bc", Text.of "a"] ∧
      killed.buffer.shown = [] ∧ killed.ring.chain? = some .backward ∧
      (killed.run [exchange]).buffer = killed.buffer ∧
      (killed.run [exchange]).ring = killed.ring.breakChain := by
  intro source typed killing exchange editor yanked killed
  have reachable : editor.Reachable := (reachable_small _ _).run _
  have editing : editor.mode = .edit := by decide
  have entries : editor.ring.entries = [Text.of "bc", Text.of "a"] := by decide
  have held : editor.ring.entries ≠ [] := by
    rw [entries]
    exact List.cons_ne_nil _ _
  have exchanges : ∀ event ∈ [exchange, (source, Event.resize ⟨9, 9⟩)],
      event.2.Waits .edit ∨ event.2.pops = true := by
    intro event member
    rcases List.mem_cons.1 member with rfl | last
    · exact .inr rfl
    · obtain rfl := List.mem_singleton.1 last
      exact .inl (.resize _)
  obtain ⟨entry, found, shown, cursor, kept⟩ := reachable.shown_yank_of_exchanges.1 editing held
    (.control 'y') rfl source _ exchanges
  have same : entry = Text.of "a" := by
    rw [entries] at found
    exact (Option.some.inj found).symm
  subst same
  have still : yanked.mode = .edit := by decide
  have bound : (Key.control 'w').action? yanked.mode = some (.kill .wordBefore) := by
    rw [still]
    rfl
  have interrupts : yanked.Interrupts (.key (.control 'w')) := .command bound rfl
  have pulled : yanked.Reachable := (reachable.apply source _).run _
  obtain ⟨line, ring⟩ := pulled.shown_yank_of_exchanges.2 source _ interrupts [exchange]
    fun event member => by
      obtain rfl := List.mem_singleton.1 member
      exact .inr rfl
  have outside : killed.mode = .edit := by decide
  rw [if_pos ⟨outside, rfl⟩] at ring
  refine ⟨reachable, editing, entries, ?_, ?_, kept.trans entries, by decide, by decide, line, ring⟩
  · exact shown.trans (by decide)
  · exact cursor.trans (by decide)

/-- So the key of the exchange does change the ring right after a kill. -/
theorem ring_changed_by_exchange :
    let source := Source.onEmptyLine (Text.of "x")
    let typed : Source × Event := (source, .key (.typed 'a'))
    let killing : Source × Event := (source, .key (.control 'w'))
    let exchange : Source × Event := (source, .key (.alt 'y'))
    let editor := (small none []).run [typed]
    let killed := editor.run [killing]
    editor.Reachable ∧ editor.Interrupts killing.2 ∧ killed.mode = .edit ∧
      exchange.2.pops = true ∧ killed.ring.chain? = some .backward ∧
      (killed.run [exchange]).ring.chain? = none ∧
      (killed.run [exchange]).ring ≠ killed.ring := by
  intro source typed killing exchange editor killed
  have reachable : editor.Reachable := (reachable_small _ _).run _
  have interrupts : editor.Interrupts killing.2 :=
    .command (show _ = some (Action.kill .wordBefore) by decide) rfl
  exact ⟨reachable, interrupts, by decide, rfl, by decide, by decide, by decide⟩

end Editor

end Promptline
