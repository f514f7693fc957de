/-
This file compares the screen before and after an event that asks for no redraw. The screen stays as
it is, except where the tab key forgets a session without a word.
-/

import Promptline.Proofs.Editor.Session
import Promptline.Screen.Compose

namespace Promptline

namespace Completion

/-- A press that finds nothing ends the session, which had no choice. -/
theorem press_of_noCandidates {completion : Completion} {buffer : LineBuffer} {source : Source}
    {next : Nat → Option Nat → Nat}
    (nothing : (completion.press buffer source next).2.2 = .noCandidates) :
    completion.press buffer source next = (completion.reset, buffer, .noCandidates) ∧
      source.candidates buffer.shown buffer.cursor = [] ∧
      ∀ session, completion.session? = some session → session.candidates.length ≤ 1 := by
  rcases completion.press_cases buffer source next with ⟨session, _, _, moved⟩ | ⟨small, anew⟩
  · rw [moved] at nothing
    simp at nothing
  · rw [anew] at nothing ⊢
    rcases completion.activate_cases buffer source with
      ⟨silent, answer⟩ | ⟨opened, outcome, opens, answer⟩
    · exact ⟨answer, silent, small⟩
    · rw [answer] at nothing
      obtain rfl : outcome = .noCandidates := nothing
      cases opens

end Completion

namespace Editor

theorem withBuffer?_of_clean {editor : Editor} {next? : Option LineBuffer}
    (clean : (editor.withBuffer? next?).2.dirty = false) :
    (editor.withBuffer? next?).1 = editor := by
  cases next? with
  | none => rfl
  | some next => simp [withBuffer?, Effects.redraw] at clean

theorem withSearch?_of_clean {editor : Editor} {search? : Option HistorySearch}
    (clean : (editor.withSearch? search?).2.dirty = false) :
    (editor.withSearch? search?).1 = editor := by
  cases search? with
  | none => rfl
  | some search => simp [withSearch?, Effects.redraw] at clean

theorem move_of_clean {editor : Editor} {motion : Motion}
    (clean : (editor.move motion).2.dirty = false) : (editor.move motion).1 = editor := by
  simp only [move] at clean ⊢
  split at clean
  · simp [Effects.redraw] at clean
  · exact withBuffer?_of_clean clean

/-- A text that does not go in leaves the line as it is. -/
theorem insert_of_clean {editor : Editor} {text : Text}
    (clean : (editor.insert text).2.dirty = false) : (editor.insert text).1 = editor := by
  simp only [Editor.insert, LineBuffer.insert] at clean ⊢
  split at clean
  next nothing => rw [if_pos nothing]
  next inserted =>
    have positive := List.length_pos_iff.2 inserted
    simp [Effects.redrawIf, positive] at clean

theorem edit_of_clean {editor : Editor} {edit : Edit} (clean : (editor.edit edit).2.dirty = false) :
    (editor.edit edit).1 = editor := by
  cases edit with
  | insert c => exact insert_of_clean clean
  | deleteBefore => exact withBuffer?_of_clean clean
  | deleteAfter => exact withBuffer?_of_clean clean
  | deleteOrEnd =>
      simp only [Editor.edit] at clean ⊢
      split at clean
      next empty => rw [if_pos empty]
      next filled =>
        rw [if_neg filled]
        exact withBuffer?_of_clean clean

theorem searchWith_of_clean {editor : Editor} {action : SearchAction}
    (clean : (editor.searchWith action).2.dirty = false) :
    (editor.searchWith action).1 = editor := by
  simp only [searchWith] at clean ⊢
  split at clean
  next idle => rw [if_pos idle]
  next active =>
    rw [if_neg active]
    cases action with
    | accept => simp [Effects.redraw] at clean
    | _ => exact withSearch?_of_clean clean

/-- Any other action than a completion leaves the editor as it is when it asks for no redraw. -/
theorem handle_of_clean {editor : Editor} {source : Source} {action : Action}
    (other : ∀ direction : TabDirection, action ≠ direction.action)
    (clean : (editor.handle source action).2.dirty = false) :
    (editor.handle source action).1 = editor := by
  cases action with
  | motion motion => exact move_of_clean clean
  | edit edit => exact edit_of_clean clean
  | kill kill =>
      simp only [handle, Editor.kill] at clean ⊢
      split at clean
      · rfl
      · simp [Effects.redraw] at clean
  | yank =>
      simp only [handle, yank] at clean ⊢
      split at clean
      · rfl
      · simp [Effects.redraw] at clean
  | yankPop =>
      simp only [handle, yankPop] at clean ⊢
      split at clean
      · rfl
      · simp [Effects.redraw] at clean
  | historyOlder => exact withBuffer?_of_clean clean
  | historyNewer => exact withBuffer?_of_clean clean
  | complete => exact absurd rfl (other .forward)
  | completeBack => exact absurd rfl (other .backward)
  | escape =>
      simp only [handle, escape] at clean ⊢
      split at clean
      · rfl
      · simp [Effects.redraw] at clean
  | submit =>
      simp only [handle, submit] at clean
      split at clean <;> simp [Effects.redraw, Effects.submit] at clean
  | interrupt => simp [handle, Effects.interrupt, Effects.redraw] at clean
  | clearScreen => simp [handle, Effects.clearScreen, Effects.redraw] at clean
  | searchStart => simp [handle, Effects.redraw] at clean
  | search action => exact searchWith_of_clean clean

/-- A press of the tab key that asks for no redraw has found nothing, and it ends the session. -/
theorem handle_action_of_clean {editor : Editor} {source : Source} {direction : TabDirection}
    (clean : (editor.handle source direction.action).2.dirty = false) :
    (editor.handle source direction.action).1 = editor.withoutSession ∧
      source.candidates editor.buffer.shown editor.buffer.cursor = [] ∧
      ∀ session, editor.completion.session? = some session →
        session.candidates.length ≤ 1 := by
  rw [handle_action] at clean ⊢
  have nothing : (editor.completion.press editor.buffer source direction.next).2.2 =
      .noCandidates := by
    simpa [completeWith, Effects.redrawIf] using clean
  obtain ⟨answer, silent, small⟩ := Completion.press_of_noCandidates nothing
  refine ⟨?_, silent, small⟩
  simp only [completeWith, answer, withoutSession]

/-- The kill ring is not on screen, and the mark of a kill is seen only where a suggestion waits. -/
theorem compose_of_not_revealed (editor : Editor) (ring : KillRing) {suppressed : Bool}
    (kept : suppressed = true → editor.suppressed = true)
    (hidden : (editor.suppressed && !suppressed &&
      (ghost? { editor with ring, suppressed }).isSome) = false) :
    compose { editor with ring, suppressed } = editor.compose := by
  have ghost : ghost? { editor with ring, suppressed } = editor.ghost? := by
    cases before : editor.suppressed with
    | false =>
        have after : suppressed = false := by
          rw [before] at kept
          exact Bool.eq_false_iff.2 fun marked => Bool.false_ne_true (kept marked)
        simp only [ghost?, before, after]
    | true =>
        have none_before : editor.ghost? = none := by
          simp [ghost?, before]
        cases suppressed with
        | false =>
            rw [before] at hidden
            rw [none_before]
            simpa using hidden
        | true =>
            rw [none_before]
            simp [ghost?]
  have view : lineView { editor with ring, suppressed } = editor.lineView := by
    simp only [lineView, ghost, suffix?]
  have box : Compose.completionRows { editor with ring, suppressed } =
      Compose.completionRows editor := rfl
  simp only [compose, Compose.edit, Compose.search, view, box]

/-- Before an action that drives the completion, or without a session, only the ring has books. -/
theorem prepare_of_kept {editor : Editor} {action : Action}
    (kept : action.drivesCompletion = true ∨ editor.completion.session? = none) :
    ∃ ring, editor.prepare action = { editor with ring } := by
  refine ⟨(editor.prepare action).ring, ?_⟩
  have same : (editor.prepare action).completion = editor.completion := by
    simp only [prepare]
    split
    · rfl
    next other =>
      have idle := kept.resolve_left other
      rw [Completion.reset, ← idle]
  rw [← same]
  rfl

/-- An action that asks for no redraw leaves the screen as it is, but the tab key may end a
session. -/
theorem compose_perform_of_clean {editor : Editor} {source : Source} {action : Action}
    (clean : (editor.perform source action).2.dirty = false) :
    (∀ direction : TabDirection, action ≠ direction.action) ∧
        (editor.perform source action).1.compose = editor.compose ∨
      (∃ direction : TabDirection, action = direction.action) ∧
        source.candidates editor.buffer.shown editor.buffer.cursor = [] ∧
        (∀ session, editor.completion.session? = some session →
          session.candidates.length ≤ 1) ∧
        (editor.perform source action).1.compose = editor.withoutSession.compose := by
  simp only [perform, Bool.or_eq_false_iff] at clean
  obtain ⟨⟨quiet, undropped⟩, unrevealed⟩ := clean
  have kept : action.drivesCompletion = true ∨ editor.completion.session? = none := by
    simp only [Completion.isActive] at undropped
    by_cases driven : action.drivesCompletion = true
    · exact .inl driven
    · right
      simpa [driven] using undropped
  obtain ⟨ring, prepared⟩ := prepare_of_kept kept
  have marked : (action.isKill && (editor.suppressed ||
      ((editor.prepare action).handle source action).2.dirty)) = true →
      editor.suppressed = true := by
    simp [quiet]
  by_cases tab : ∃ direction : TabDirection, action = direction.action
  · right
    obtain ⟨direction, rfl⟩ := tab
    obtain ⟨forgotten, silent, small⟩ := handle_action_of_clean quiet
    rw [prepared] at silent small
    refine ⟨⟨direction, rfl⟩, silent, small, ?_⟩
    rw [forgotten, prepared] at unrevealed
    simp only [perform]
    rw [forgotten, prepared]
    rw [prepared] at marked
    exact compose_of_not_revealed editor.withoutSession ring marked unrevealed
  · left
    have other : ∀ direction : TabDirection, action ≠ direction.action :=
      fun direction same => tab ⟨direction, same⟩
    refine ⟨other, ?_⟩
    have unchanged := handle_of_clean other quiet
    rw [unchanged, prepared] at unrevealed
    simp only [perform]
    rw [unchanged, prepared]
    rw [prepared] at marked
    exact compose_of_not_revealed editor ring marked unrevealed

/-- The tab key is pressed in a session without a choice, and the source has no answer. -/
structure Forgets (editor : Editor) (source : Source) (event : Event) : Prop where
  pressed : ∃ (key : Key) (direction : TabDirection),
    event = .key key ∧ key.action? editor.mode = some direction.action
  small : ∃ session, editor.completion.session? = some session ∧ session.candidates.length ≤ 1
  silent : source.candidates editor.buffer.shown editor.buffer.cursor = []

/-- A session without a choice has no box. -/
theorem completionRows_of_small {editor : Editor} (offers : editor.completion.Offers)
    {session : CompletionSession} (held : editor.completion.session? = some session)
    (small : session.candidates.length ≤ 1) : Compose.completionRows editor = [] := by
  have offered := offers session held
  have several := List.length_pos_iff.2 offered.offers
  have closed : editor.completion.isBoxed = false := by
    simp only [Completion.isBoxed, held, Option.any_some, offered.boxed_eq]
    simp only [decide_eq_false_iff_not]
    omega
  simp [Compose.completionRows, closed]

/-- A forgotten session is not missed on screen where it shows no suffix and hides no
suggestion. -/
theorem Forgets.compose_withoutSession {editor : Editor} {source : Source} {event : Event}
    (forgets : editor.Forgets source event) (offers : editor.completion.Offers)
    (plain : editor.suffix? = none) (alone : editor.withoutSession.ghost? = none) :
    editor.withoutSession.compose = editor.compose := by
  obtain ⟨key, direction, _, bound⟩ := forgets.pressed
  obtain ⟨session, held, small⟩ := forgets.small
  have editing := editing_of_drives bound direction.drivesCompletion_action
  have hidden : editor.ghost? = none := by
    simp [ghost?, Completion.isActive, held]
  have bare : editor.withoutSession.suffix? = none := rfl
  have view : editor.withoutSession.lineView = editor.lineView := by
    simp only [lineView, plain, alone, hidden, bare]
    rfl
  have box : Compose.completionRows editor.withoutSession = Compose.completionRows editor := by
    rw [completionRows_of_small offers held small]
    rfl
  have editing' : editor.withoutSession.search.active = false := editing
  simp only [compose, editing, editing', Compose.edit, view, box]
  rfl

/-- After an event that asks for no redraw the screen shows the line as before, or without the
session that is forgotten. -/
theorem compose_apply_cases {editor : Editor} {source : Source} {event : Event}
    (clean : (editor.apply source event).2.dirty = false) :
    editor.Forgets source event ∧
        (editor.apply source event).1.compose = editor.withoutSession.compose ∨
      ¬ editor.Forgets source event ∧
        (editor.apply source event).1.compose = editor.compose := by
  cases event with
  | paste text =>
      simp only [apply, paste] at clean
      split at clean <;> simp [Effects.redraw] at clean
  | resize size => simp [apply, Effects.redraw] at clean
  | key key =>
      simp only [apply] at clean ⊢
      cases bound : key.action? editor.mode with
      | none =>
          refine .inr ⟨fun forgets => ?_, rfl⟩
          obtain ⟨pressed, direction, same, tab⟩ := forgets.pressed
          obtain rfl := Event.key.inj same
          simp [bound] at tab
      | some action =>
          rw [bound] at clean
          rcases compose_perform_of_clean clean with
            ⟨other, same⟩ | ⟨⟨direction, tab⟩, silent, small, forgotten⟩
          · refine .inr ⟨fun forgets => ?_, same⟩
            obtain ⟨pressed, direction, same, tab⟩ := forgets.pressed
            obtain rfl := Event.key.inj same
            exact other direction (Option.some.inj (bound.symm.trans tab))
          · cases held : editor.completion.session? with
            | none =>
                refine .inr ⟨fun forgets => ?_, ?_⟩
                · obtain ⟨session, active, _⟩ := forgets.small
                  simp [held] at active
                · rw [withoutSession_of_idle held] at forgotten
                  exact forgotten
            | some session =>
                refine .inl ⟨⟨⟨key, direction, rfl, ?_⟩, ?_, silent⟩, forgotten⟩
                · rw [bound, tab]
                · exact ⟨session, held, small session held⟩

/-- An event that asks for no redraw leaves the screen as it is, unless the tab key forgets a
session that is seen. Then the screen still shows the session, which the editor no longer has. -/
theorem compose_apply_of_clean {editor : Editor} (reachable : editor.Reachable) (source : Source)
    (event : Event) (clean : (editor.apply source event).2.dirty = false) :
    let after := (editor.apply source event).1
    (after.compose = editor.compose ↔
        (editor.Forgets source event → editor.withoutSession.compose = editor.compose)) ∧
      (editor.Forgets source event → after.compose = editor.withoutSession.compose ∧
        (editor.suffix? = none → editor.withoutSession.ghost? = none →
          after.compose = editor.compose)) := by
  intro after
  rcases compose_apply_cases clean with ⟨forgets, forgotten⟩ | ⟨remembers, same⟩
  · refine ⟨⟨fun same _ => ?_, fun unseen => ?_⟩, fun _ => ⟨forgotten, fun plain alone => ?_⟩⟩
    · exact forgotten.symm.trans same
    · exact forgotten.trans (unseen forgets)
    · exact forgotten.trans (forgets.compose_withoutSession reachable.offers plain alone)
  · refine ⟨⟨fun _ forgets => ?_, fun _ => same⟩, fun forgets => ?_⟩
    · exact absurd forgets remembers
    · exact absurd forgets remembers

/-- A session that shows nothing of its own is forgotten unseen. -/
theorem compose_after_forgotten_session :
    let source := Source.onEmptyLine (Text.of "a")
    let tab := Event.key (.plain .tab)
    let editor := (small none []).run [(source, tab)]
    editor.Reachable ∧ (editor.apply source tab).2.dirty = false ∧ editor.Forgets source tab ∧
      (editor.apply source tab).1.compose = editor.compose := by
  intro source tab editor
  have reachable : editor.Reachable := (reachable_small none []).run _
  have clean : (editor.apply source tab).2.dirty = false := by decide
  have forgets : editor.Forgets source tab :=
    ⟨⟨.plain .tab, .forward, rfl, rfl⟩, ⟨_, rfl, by decide⟩, rfl⟩
  exact ⟨reachable, clean, forgets,
    ((compose_apply_of_clean reachable source tab clean).2 forgets).2 rfl rfl⟩

/-- The second press of the tab key reveals the rest of a command, and nobody draws it. -/
theorem compose_stale_after_forgotten_session :
    let source := Source.onEmptyLine (Text.of "a")
    let tab := Event.key (.plain .tab)
    let editor := (small none [Text.of "ab"]).run [(source, tab)]
    let (after, effects) := editor.apply source tab
    editor.Reachable ∧ effects.dirty = false ∧ effects.ended = false ∧
      after.compose ≠ editor.compose := by
  intro source tab editor
  refine ⟨(reachable_small none _).run _, by decide, by decide, ?_⟩
  decide +kernel

end Editor

end Promptline
