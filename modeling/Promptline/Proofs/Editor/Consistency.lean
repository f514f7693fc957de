/-
This file ties the parts of the editor together. In every reachable editor the completion, the
history search, the line, the history and the kill ring agree with each other.
-/

import Promptline.Proofs.Completion.Placement
import Promptline.Proofs.Editor.Session
import Promptline.Proofs.LineBuffer.Kill

namespace Promptline

namespace Completion

theorem eager_press (completion : Completion) (buffer : LineBuffer) (source : Source)
    (next : Nat → Option Nat → Nat) :
    (completion.press buffer source next).1.eager = completion.eager := by
  rcases completion.press_cases buffer source next with ⟨_, _, _, moved⟩ | ⟨_, anew⟩
  · rw [moved]
  · rw [anew]
    rcases completion.activate_cases buffer source with ⟨_, nothing⟩ | ⟨_, _, _, answer⟩
    · rw [nothing]
      rfl
    · rw [answer]

end Completion

/-- A session on the draft does not look at the entries. -/
theorem CompletionSession.Placed.setEntries {session : CompletionSession} {line : LineBuffer}
    (placed : session.Placed line) (entries : List Text) :
    session.Placed (line.setEntries entries) := by
  have cursor : (line.setEntries entries).cursor = line.cursor := Nat.min_eq_left placed.inside
  refine ⟨rfl, placed.ordered, ?_, ?_, placed.filled⟩
  · rw [cursor]
    exact placed.atCursor
  · rw [cursor]
    exact placed.inside

namespace Action

theorem drivesCompletion_of_worksOnLine {action : Action} (works : action.worksOnLine = true) :
    action.drivesCompletion = false := by
  cases action <;> first | rfl | simp [worksOnLine] at works

theorem drivesCompletion_of_isYank {action : Action} (yanks : action.isYank = true) :
    action.drivesCompletion = false := by
  cases action <;> first | rfl | simp [isYank] at yanks

end Action

namespace Editor

section Handles

variable {editor after : Editor} {source : Source} {action : Action}

theorem Handles.history_eq (handles : editor.Handles source action after) :
    after.history = editor.history := by
  cases handles <;> rfl

theorem Handles.capacity_eq (handles : editor.Handles source action after) :
    after.ring.capacity = editor.ring.capacity := by
  cases handles with
  | kill kill => exact KillRing.capacity_record _ _ _
  | _ => rfl

theorem Handles.eager_eq (handles : editor.Handles source action after) :
    after.completion.eager = editor.completion.eager := by
  cases handles with
  | press direction => exact Completion.eager_press _ _ _ _
  | _ => rfl

/-- Only a kill starts a chain. -/
theorem Handles.chain?_eq_none (handles : editor.Handles source action after)
    (unkilled : action.isKill = false) (broken : editor.ring.chain? = none) :
    after.ring.chain? = none := by
  cases handles with
  | kill kill => simp [Action.isKill] at unkilled
  | submit => rfl
  | interrupt => rfl
  | _ => exact broken

/-- No action has a session beside a search. -/
theorem Handles.alone (handles : editor.Handles source action after)
    (idle : action.drivesCompletion = false → editor.completion.session? = none)
    (editing : action.drivesCompletion = true → editor.search.active = false) :
    after.completion.isActive = false ∨ after.search.active = false := by
  have inactive (undriven : action.drivesCompletion = false) :
      editor.completion.isActive = false := by
    rw [Completion.isActive, idle undriven, Option.isSome_none]
  cases handles with
  | line works => exact .inl (inactive (Action.drivesCompletion_of_worksOnLine works))
  | kill => exact .inl (inactive rfl)
  | yank yanks => exact .inl (inactive (Action.drivesCompletion_of_isYank yanks))
  | press direction => exact .inr (editing direction.drivesCompletion_action)
  | escape => exact .inl rfl
  | accept => exact .inl rfl
  | submit => exact .inl rfl
  | interrupt => exact .inl rfl
  | clearScreen => exact .inl (inactive rfl)
  | searchStart => exact .inl rfl
  | search => exact .inl (inactive rfl)

/-- No action leaves a session behind that has not placed its text. -/
theorem Handles.places (handles : editor.Handles source action after)
    (idle : action.drivesCompletion = false → editor.completion.session? = none)
    (hurried : editor.completion.eager = true)
    (inside : editor.buffer.cursor ≤ editor.buffer.length)
    (places : editor.completion.Places editor.buffer) : after.completion.Places after.buffer := by
  cases handles with
  | line works =>
      exact Completion.places_of_idle (idle (Action.drivesCompletion_of_worksOnLine works)) _
  | kill => exact Completion.places_of_idle (idle rfl) _
  | yank yanks =>
      exact Completion.places_of_idle (idle (Action.drivesCompletion_of_isYank yanks)) _
  | press direction => exact places.press hurried inside source direction
  | escape => exact Completion.places_of_idle rfl _
  | accept => exact Completion.places_of_idle rfl _
  | submit => exact Completion.places_of_idle rfl _
  | interrupt => exact Completion.places_of_idle rfl _
  | clearScreen => exact places
  | searchStart => exact Completion.places_of_idle rfl _
  | search => exact Completion.places_of_idle (idle rfl) _

end Handles

/-- The parts of the editor agree with each other. -/
structure Consistent (editor : Editor) : Prop where
  alone : editor.completion.isActive = false ∨ editor.search.active = false
  mirrored : editor.buffer.entries = editor.history.map HistoryItem.command
  marked : editor.suppressed = editor.ring.chain?.isSome
  hurried : editor.completion.eager = true
  places : editor.completion.Places editor.buffer
  roomy : 0 < editor.ring.capacity

theorem eager_prepare (editor : Editor) (action : Action) :
    (editor.prepare action).completion.eager = editor.completion.eager := by
  simp only [prepare]
  split <;> rfl

theorem session?_prepare (editor : Editor) {action : Action}
    (undriven : action.drivesCompletion = false) :
    (editor.prepare action).completion.session? = none := by
  simp only [prepare, undriven, Bool.false_eq_true, if_false, Completion.reset]

theorem Consistent.places_prepare {editor : Editor} (consistent : editor.Consistent)
    (action : Action) : (editor.prepare action).completion.Places editor.buffer := by
  simp only [prepare]
  split
  · exact consistent.places
  · exact Completion.places_of_idle rfl _

theorem capacity_prepare (editor : Editor) (action : Action) :
    (editor.prepare action).ring.capacity = editor.ring.capacity := by
  simp only [prepare]
  split <;> split <;> rfl

theorem chain?_prepare (editor : Editor) (action : Action) :
    (editor.prepare action).ring.chain? =
      if action.isKill then editor.ring.chain? else none := by
  simp only [prepare]
  split <;> split <;> rfl

/-- The suggestion is hidden exactly inside a chain of kills. -/
theorem suppressed_perform {editor : Editor} (inside : editor.buffer.cursor ≤ editor.buffer.length)
    (marked : editor.suppressed = editor.ring.chain?.isSome) (source : Source) (action : Action) :
    let after := (editor.perform source action).1
    after.suppressed = after.ring.chain?.isSome := by
  dsimp only
  cases kills : action.isKill with
  | false =>
      have broken : ((editor.prepare action).handle source action).1.ring.chain? = none := by
        refine ((editor.prepare action).handles source action).chain?_eq_none kills ?_
        simp only [chain?_prepare, kills, Bool.false_eq_true, if_false]
      simp only [perform, kills, Bool.false_and, broken, Option.isSome_none]
  | true =>
      cases action with
      | kill kill =>
          have kept : (editor.prepare (.kill kill)).ring.chain? = editor.ring.chain? :=
            editor.chain?_prepare (.kill kill)
          cases killed : killed? editor.buffer kill with
          | none =>
              have stays : (editor.prepare (.kill kill)).kill kill =
                  (editor.prepare (.kill kill), .clean) := by
                simp only [Editor.kill, prepare, killed]
              simp only [perform, handle, stays, Action.isKill, Effects.clean, Bool.or_false,
                Bool.true_and, kept, marked]
          | some taken =>
              obtain ⟨line, text⟩ := taken
              have filled := (LineBuffer.loses_of_killed? inside killed).1
              have recorded : (editor.prepare (.kill kill)).kill kill =
                  ({ editor.prepare (.kill kill) with
                      buffer := line
                      ring := (editor.prepare (.kill kill)).ring.record (killDirection kill) text },
                    .redraw) := by
                simp only [Editor.kill, prepare, killed]
              simp only [perform, handle, recorded, Action.isKill, Effects.redraw, Bool.or_true,
                Bool.true_and, KillRing.chain?_record filled, Option.isSome_some]
      | _ => simp [Action.isKill] at kills

/-- An action keeps the parts in agreement. -/
theorem Consistent.perform {editor : Editor} (consistent : editor.Consistent)
    (inside : editor.buffer.cursor ≤ editor.buffer.length) (source : Source) {action : Action}
    (editing : action.drivesCompletion = true → editor.search.active = false) :
    (editor.perform source action).1.Consistent := by
  have handles := (editor.prepare action).handles source action
  have idle : action.drivesCompletion = false →
      (editor.prepare action).completion.session? = none := session?_prepare editor
  have hurried : (editor.prepare action).completion.eager = true := by
    rw [eager_prepare]
    exact consistent.hurried
  exact
    { alone := handles.alone idle editing
      mirrored := by
        change ((editor.prepare action).handle source action).1.buffer.entries =
          ((editor.prepare action).handle source action).1.history.map HistoryItem.command
        rw [handles.edits.entries, handles.history_eq]
        exact consistent.mirrored
      marked := suppressed_perform inside consistent.marked source action
      hurried := handles.eager_eq.trans hurried
      places := handles.places idle hurried inside (consistent.places_prepare action)
      roomy := by
        change 0 < ((editor.prepare action).handle source action).1.ring.capacity
        rw [handles.capacity_eq, capacity_prepare]
        exact consistent.roomy }

/-- A paste goes to the query or ends the session and the chain. -/
theorem Consistent.paste {editor : Editor} (consistent : editor.Consistent) (text : Text) :
    (editor.paste text).1.Consistent := by
  have entries := (editor.edits_paste text).entries
  simp only [Editor.paste] at entries ⊢
  split
  next searching =>
    have alone := consistent.alone.resolve_right (by simp [searching])
    exact { consistent with alone := .inl alone }
  next editing =>
    rw [if_neg editing] at entries
    exact
      { alone := .inl rfl
        mirrored := entries.trans consistent.mirrored
        marked := rfl
        hurried := consistent.hurried
        places := Completion.places_of_idle rfl _
        roomy := consistent.roomy }

theorem Consistent.apply {editor : Editor} (consistent : editor.Consistent)
    (inside : editor.buffer.cursor ≤ editor.buffer.length) (source : Source) (event : Event) :
    (editor.apply source event).1.Consistent := by
  cases event with
  | key key =>
      simp only [Editor.apply]
      split
      · exact consistent
      next action bound =>
        exact consistent.perform inside source fun drives => editing_of_drives bound drives
  | paste text => exact consistent.paste text
  | resize size => exact { consistent with }

theorem Consistent.setHistory {editor : Editor} (consistent : editor.Consistent)
    (history : List HistoryItem) : (editor.setHistory history).Consistent :=
  { consistent with
    mirrored := rfl
    places := fun session held => (consistent.places session held).setEntries _ }

/-- The parts of every reachable editor agree with each other. -/
theorem Reachable.consistent {editor : Editor} (reachable : editor.Reachable) :
    editor.Consistent := by
  induction reachable with
  | started options directory size validator? =>
      exact
        { alone := .inl rfl
          mirrored := rfl
          marked := rfl
          hurried := rfl
          places := Completion.places_of_idle rfl _
          roomy := Nat.le_max_right _ 1 }
  | setHistory _ history inductionHypothesis => exact inductionHypothesis.setHistory history
  | pushHistory _ item inductionHypothesis => exact inductionHypothesis.setHistory _
  | apply reachable source event inductionHypothesis =>
      exact inductionHypothesis.apply reachable.line.bounded.cursor_le source event

/-- A session and a search never meet, the line recalls the history, a kill hides the suggestion,
and a session stands in front of the cursor with a part of what it offers. -/
theorem Reachable.parts_agree {editor : Editor} (reachable : editor.Reachable) :
    ¬ (editor.completion.isActive = true ∧ editor.search.active = true) ∧
      editor.buffer.entries = editor.history.map HistoryItem.command ∧
      editor.suppressed = editor.ring.chain?.isSome ∧
      ∀ session, editor.completion.session? = some session →
        let span := editor.buffer.draft.slice session.start session.stop
        editor.buffer.selected = 0 ∧ session.candidates ≠ [] ∧
          session.start ≤ session.stop ∧ session.stop = editor.buffer.cursor ∧
          editor.buffer.cursor ≤ editor.buffer.draft.length ∧
          (∀ index, session.selected? = some index → ∃ candidate,
            session.candidates[index]? = some candidate ∧ span <+: candidate.value) ∧
          (session.selected? = none →
            span <+: Text.commonStart (session.candidates.map Candidate.value)) := by
  have consistent := reachable.consistent
  refine ⟨fun both => ?_, consistent.mirrored, consistent.marked, fun session held => ?_⟩
  · rcases consistent.alone with inactive | editing
    · simp [inactive] at both
    · simp [editing] at both
  · have offered := reachable.offers session held
    have placed := consistent.places session held
    have filled := placed.filled
    refine ⟨placed.drafted, offered.offers, placed.ordered, placed.atCursor, placed.inside,
      fun index chosen => ?_, fun undecided => ?_⟩
    · have found := List.getElem?_eq_getElem (offered.known index chosen)
      refine ⟨_, found, ?_⟩
      simpa only [CompletionSession.promised, chosen, Option.bind_some, found] using filled
    · simpa only [CompletionSession.promised, undecided, Option.bind_none] using filled

/-- A first press that only extends the line fills its span with the common start. -/
theorem parts_agree_after_extension :
    let source := Source.ofCandidates fun _ _ =>
      [.ofValue (Text.of "aab"), .ofValue (Text.of "aac")]
    let editor := (small none [Text.of "ls"]).run [(source, .key (.plain .tab))]
    editor.Reachable ∧ editor.completion.isActive = true ∧ editor.search.active = false ∧
      editor.buffer.entries = [Text.of "ls"] ∧ editor.suppressed = false ∧
      ∃ session, editor.completion.session? = some session ∧ session.selected? = none ∧
        session.stop = editor.buffer.cursor ∧
        editor.buffer.draft.slice session.start session.stop = Text.of "aa" ∧
        Text.of "aa" <+: Text.commonStart (session.candidates.map Candidate.value) := by
  intro source editor
  have reachable : editor.Reachable := (reachable_small none _).run _
  obtain ⟨alone, recalled, hidden, placed⟩ := reachable.parts_agree
  have active : editor.completion.isActive = true := by decide
  have editing : editor.search.active = false :=
    Bool.eq_false_iff.2 fun searching => alone ⟨active, searching⟩
  have unbroken : editor.suppressed = false := by
    rw [hidden]
    decide
  refine ⟨reachable, active, editing, recalled, unbroken, ?_⟩
  obtain ⟨session, held⟩ := Option.isSome_iff_exists.1 active
  obtain ⟨_, _, _, atCursor, _, _, shared⟩ := placed session held
  have undecided : session.selected? = none := by
    have nothing : editor.completion.selected? = none := by decide
    simpa only [Completion.selected?, held, Option.bind_some] using nothing
  have span : editor.buffer.draft.slice session.start session.stop = Text.of "aa" := by
    obtain rfl := Option.some.inj held
    decide
  refine ⟨session, held, undecided, atCursor, span, ?_⟩
  rw [← span]
  exact shared undecided

end Editor

end Promptline
