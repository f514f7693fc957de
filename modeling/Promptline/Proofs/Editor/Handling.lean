/-
This file says once what every action does to the editor. The line changes by the operations of the
line alone, and each part of the editor is left to the actions that are for it.
-/

import Promptline.Proofs.Completion.Cycle
import Promptline.Proofs.LineBuffer.Reachable

namespace Promptline

namespace CompletionSession

theorem edits_put (session : CompletionSession) (buffer : LineBuffer) (text : Text) :
    buffer.Edits (session.put buffer text).2 :=
  LineBuffer.Edits.refl.perform (.replace session.start session.stop text) rfl

theorem edits_select (session : CompletionSession) (buffer : LineBuffer) (index : Nat) :
    buffer.Edits (session.select buffer index).2 := by
  simp only [select]
  split
  · exact .refl
  next candidate _ =>
    exact LineBuffer.Edits.refl.perform (.replace session.start session.stop candidate.value) rfl

end CompletionSession

namespace Completion

theorem Opens.edits {eager : Bool} {buffer : LineBuffer} {source : Source}
    {opened : CompletionSession × LineBuffer} {outcome : TabOutcome}
    (opens : Opens eager buffer source opened outcome) : buffer.Edits opened.2 := by
  cases opens with
  | completed => exact CompletionSession.edits_select _ buffer 0
  | extended => exact CompletionSession.edits_put _ buffer _
  | selected => exact CompletionSession.edits_select _ buffer 0
  | ambiguous => exact .refl

theorem edits_activate (completion : Completion) (buffer : LineBuffer) (source : Source) :
    buffer.Edits (completion.activate buffer source).2.1 := by
  rcases completion.activate_cases buffer source with ⟨_, nothing⟩ | ⟨opened, _, opens, answer⟩
  · rw [nothing]
    exact .refl
  · rw [answer]
    exact opens.edits

/-- A press of the tab key only replaces spans of the line. -/
theorem edits_press (completion : Completion) (buffer : LineBuffer) (source : Source)
    (next : Nat → Option Nat → Nat) :
    buffer.Edits (completion.press buffer source next).2.1 := by
  rcases completion.press_cases buffer source next with ⟨session, _, _, moved⟩ | ⟨_, anew⟩
  · rw [moved]
    exact session.edits_select buffer _
  · rw [anew]
    exact completion.edits_activate buffer source

end Completion

/-- These actions are for the line and the kill ring. -/
def Action.worksOnLine : Action → Bool
  | motion _ | edit _ | kill _ | yank | yankPop | historyOlder | historyNewer => true
  | _ => false

/-- The action that the tab key is bound to. -/
def TabDirection.action : TabDirection → Action
  | forward => .complete
  | backward => .completeBack

@[simp] theorem TabDirection.drivesCompletion_action (direction : TabDirection) :
    direction.action.drivesCompletion = true := by
  cases direction <;> rfl

/-- Without a session there is nothing to reset. -/
theorem Completion.reset_of_idle {completion : Completion} (idle : completion.session? = none) :
    completion.reset = completion := by
  rw [Completion.reset, ← idle]

namespace Editor

theorem mode_eq_edit_iff {editor : Editor} :
    editor.mode = .edit ↔ editor.search.active = false := by
  cases active : editor.search.active <;> simp [mode, active]

/-- The keys that drive the completion are bound outside the search only. -/
theorem editing_of_drives {editor : Editor} {key : Key} {action : Action}
    (bound : key.action? editor.mode = some action) (drives : action.drivesCompletion = true) :
    editor.search.active = false := by
  cases active : editor.search.active with
  | false => rfl
  | true =>
      simp only [mode, active, if_true, Key.action?, Key.searchAction?] at bound
      obtain ⟨searched, _, rfl⟩ := Option.map_eq_some_iff.1 bound
      simp [Action.drivesCompletion] at drives

theorem handle_action (editor : Editor) (source : Source) (direction : TabDirection) :
    editor.handle source direction.action = editor.completeWith source direction.next := by
  cases direction <;> rfl

/-- The line takes what an operation answers, and nothing else changes. -/
theorem withBuffer?_writes {editor : Editor} {next? : Option LineBuffer}
    (edits : editor.buffer.Edits (next?.getD editor.buffer)) :
    ∃ buffer, editor.buffer.Edits buffer ∧
      (editor.withBuffer? next?).1 = { editor with buffer } := by
  cases next? with
  | none => exact ⟨editor.buffer, .refl, rfl⟩
  | some next => exact ⟨next, edits, rfl⟩

theorem insert_writes (editor : Editor) (text : Text) :
    ∃ buffer, editor.buffer.Edits buffer ∧ (editor.insert text).1 = { editor with buffer } :=
  ⟨_, LineBuffer.Edits.refl.perform (.insert text) rfl, rfl⟩

theorem move_writes (editor : Editor) (motion : Motion) :
    ∃ buffer, editor.buffer.Edits buffer ∧ (editor.move motion).1 = { editor with buffer } := by
  simp only [move]
  split
  next accepted taken =>
    split at taken
    · obtain ⟨rest, _, rfl⟩ := Option.map_eq_some_iff.1 taken
      exact editor.insert_writes rest
    · simp at taken
  · exact withBuffer?_writes (LineBuffer.Edits.refl.perform (.move motion) rfl)

theorem edit_writes (editor : Editor) (edit : Edit) :
    ∃ buffer, editor.buffer.Edits buffer ∧ (editor.edit edit).1 = { editor with buffer } := by
  cases edit with
  | insert c => exact editor.insert_writes [c]
  | deleteBefore => exact withBuffer?_writes (LineBuffer.Edits.refl.perform .deleteBefore rfl)
  | deleteAfter => exact withBuffer?_writes (LineBuffer.Edits.refl.perform .deleteAfter rfl)
  | deleteOrEnd =>
      simp only [Editor.edit]
      split
      · exact ⟨editor.buffer, .refl, rfl⟩
      · exact withBuffer?_writes (LineBuffer.Edits.refl.perform .deleteAfter rfl)

/-- A search action leaves everything alone but the search, and it can put a command into the
line. -/
theorem searchWith_writes (editor : Editor) (action : SearchAction) :
    ∃ buffer search, editor.buffer.Edits buffer ∧
      (editor.searchWith action).1 = { editor with buffer, search } := by
  have searched (search? : Option HistorySearch) :
      ∃ buffer search, editor.buffer.Edits buffer ∧
        (editor.withSearch? search?).1 = { editor with buffer, search } := by
    cases search? with
    | none => exact ⟨editor.buffer, editor.search, .refl, rfl⟩
    | some search => exact ⟨editor.buffer, search, .refl, rfl⟩
  simp only [searchWith]
  split
  · exact ⟨editor.buffer, editor.search, .refl, rfl⟩
  · cases action with
    | accept =>
        refine ⟨editor.acceptSearch.buffer, _, ?_, rfl⟩
        simp only [acceptSearch, HistorySearch.accept]
        cases editor.search.selectedCommand? with
        | none => exact .refl
        | some command => exact LineBuffer.Edits.refl.perform (.setDraft command) rfl
    | _ => exact searched _

/-- The line and the text after a kill, which takes nothing where there is nothing to kill. -/
def taken (buffer : LineBuffer) (kill : Kill) : LineBuffer × Text :=
  (killed? buffer kill).getD (buffer, [])

theorem taken_fst (buffer : LineBuffer) (kill : Kill) :
    (taken buffer kill).1 = buffer.perform (.kill kill) := by
  simp only [taken, LineBuffer.perform]
  cases killed? buffer kill <;> rfl

theorem kill_eq_taken (editor : Editor) (kill : Kill) :
    (editor.kill kill).1 =
      { editor with
        buffer := (taken editor.buffer kill).1
        ring := editor.ring.record (killDirection kill) (taken editor.buffer kill).2 } := by
  simp only [Editor.kill, taken]
  cases killed? editor.buffer kill <;> rfl

/-- These are the ways in which an action changes the editor. -/
inductive Handles (editor : Editor) (source : Source) : Action → Editor → Prop where
  | line {action : Action} (works : action.worksOnLine = true) (unkilled : action.isKill = false)
      (unyanked : action.isYank = false) {buffer : LineBuffer}
      (edits : editor.buffer.Edits buffer) : Handles editor source action { editor with buffer }
  | kill (kill : Kill) :
      Handles editor source (.kill kill)
        { editor with
          buffer := (taken editor.buffer kill).1
          ring := editor.ring.record (killDirection kill) (taken editor.buffer kill).2 }
  | yank {action : Action} (yanks : action.isYank = true) {buffer : LineBuffer}
      (edits : editor.buffer.Edits buffer) (rotation : Nat) (yanked? : Option (Nat × Nat)) :
      Handles editor source action
        { editor with buffer, ring := { editor.ring with rotation, yanked? } }
  | press (direction : TabDirection) :
      Handles editor source direction.action
        { editor with
          completion := (editor.completion.press editor.buffer source direction.next).1
          buffer := (editor.completion.press editor.buffer source direction.next).2.1 }
  | escape {buffer : LineBuffer} (edits : editor.buffer.Edits buffer) :
      Handles editor source .escape
        { editor with completion := editor.completion.reset, buffer }
  | accept :
      Handles editor source .submit { editor with completion := editor.completion.reset }
  | submit : Handles editor source .submit editor.resetLine
  | interrupt : Handles editor source .interrupt editor.resetLine
  | clearScreen : Handles editor source .clearScreen editor
  | searchStart : Handles editor source .searchStart editor.enterSearch
  | search (action : SearchAction) {buffer : LineBuffer} (search : HistorySearch)
      (edits : editor.buffer.Edits buffer) :
      Handles editor source (.search action) { editor with buffer, search }

/-- No action does anything else. -/
theorem handles (editor : Editor) (source : Source) (action : Action) :
    Handles editor source action (editor.handle source action).1 := by
  have line {action : Action} {after : Editor} (works : action.worksOnLine = true)
      (unkilled : action.isKill = false) (unyanked : action.isYank = false)
      (writes : ∃ buffer, editor.buffer.Edits buffer ∧ after = { editor with buffer }) :
      Handles editor source action after := by
    obtain ⟨buffer, edits, rfl⟩ := writes
    exact .line works unkilled unyanked edits
  cases action with
  | motion motion => exact line rfl rfl rfl (editor.move_writes motion)
  | edit edit => exact line rfl rfl rfl (editor.edit_writes edit)
  | kill kill =>
      rw [handle, kill_eq_taken]
      exact .kill kill
  | yank =>
      simp only [handle, yank]
      split
      · exact .yank rfl .refl editor.ring.rotation editor.ring.yanked?
      next yanked =>
        obtain ⟨rotation, rfl⟩ := KillRing.yank?_turns yanked
        exact .yank rfl (LineBuffer.Edits.refl.perform (.insert _) rfl) rotation _
  | yankPop =>
      simp only [handle, yankPop]
      split
      · exact .yank rfl .refl editor.ring.rotation editor.ring.yanked?
      next popped =>
        obtain ⟨rotation, rfl⟩ := KillRing.yankPop?_turns popped
        exact .yank rfl (LineBuffer.Edits.refl.perform (.replace _ _ _) rfl) rotation _
  | historyOlder =>
      exact line rfl rfl rfl (withBuffer?_writes (LineBuffer.Edits.refl.perform .older rfl))
  | historyNewer =>
      exact line rfl rfl rfl (withBuffer?_writes (LineBuffer.Edits.refl.perform .newer rfl))
  | complete => exact .press .forward
  | completeBack => exact .press .backward
  | escape =>
      simp only [handle, escape, Completion.cancel?]
      cases held : editor.completion.session? with
      | none =>
          have same : editor = { editor with completion := editor.completion.reset } := by
            rw [Completion.reset_of_idle held]
          exact same ▸ .escape .refl
      | some session =>
          exact .escape ((LineBuffer.Edits.refl.perform (.setDraft session.line) rfl).perform
            (.setCursor session.cursor) rfl)
  | submit =>
      simp only [handle, submit]
      split
      · exact .accept
      · exact .submit
  | interrupt => exact .interrupt
  | clearScreen => exact .clearScreen
  | searchStart => exact .searchStart
  | search action =>
      obtain ⟨buffer, search, edits, same⟩ := editor.searchWith_writes action
      rw [handle, same]
      exact .search action search edits

/-- Every action works on the line by operations of the line. -/
theorem Handles.edits {editor after : Editor} {source : Source} {action : Action}
    (handles : editor.Handles source action after) : editor.buffer.Edits after.buffer := by
  cases handles with
  | line _ _ _ edits => exact edits
  | kill kill =>
      rw [taken_fst]
      exact LineBuffer.Edits.refl.perform (.kill kill) rfl
  | yank _ edits => exact edits
  | press direction => exact editor.completion.edits_press editor.buffer source direction.next
  | escape edits => exact edits
  | accept => exact .refl
  | submit => exact LineBuffer.Edits.refl.perform .reset rfl
  | interrupt => exact LineBuffer.Edits.refl.perform .reset rfl
  | clearScreen => exact .refl
  | searchStart => exact .refl
  | search _ _ edits => exact edits

end Editor

end Promptline
