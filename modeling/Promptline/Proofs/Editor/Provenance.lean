/-
This file says where the text of the line comes from. An action performs at most one operation on
the line, but for escape, which restores a line and a cursor, and it takes a text that goes into the
line from a place that is known.
-/

import Promptline.Proofs.Editor.Reachable
import Promptline.Proofs.Editor.Searching
import Promptline.Proofs.LineBuffer.Editing

namespace Promptline

/-- The text that the operation is to bring into the line. -/
def LineBuffer.Operation.text : Operation → Text
  | setDraft text | insert text | replace _ _ text => text
  | _ => []

theorem LineBuffer.text_of_edit? {buffer : LineBuffer} {operation : Operation}
    {edit : Replacement} (asked : buffer.edit? operation = some edit) :
    edit.text = operation.text := by
  cases operation with
  | kill kill =>
      cases kill <;>
      · obtain rfl := Option.some.inj asked
        rfl
  | setLimit => simp [edit?] at asked
  | setValidator => simp [edit?] at asked
  | setEntries => simp [edit?] at asked
  | setCursor => simp [edit?] at asked
  | move => simp [edit?] at asked
  | older => simp [edit?] at asked
  | newer => simp [edit?] at asked
  | _ =>
      obtain rfl := Option.some.inj asked
      rfl

namespace KillRing

theorem mem_of_yank? {ring turned : KillRing} {text : Text}
    (yanked : ring.yank? = some (turned, text)) : text ∈ ring.entries := by
  simp only [yank?] at yanked
  split at yanked
  · simp at yanked
  next newest older entries =>
    obtain ⟨_, rfl⟩ := Prod.ext_iff.1 (Option.some.inj yanked)
    rw [entries]
    exact List.mem_cons_self

theorem mem_of_yankPop? {ring turned : KillRing} {span : Nat × Nat} {text : Text}
    (popped : ring.yankPop? = some (turned, span, text)) : text ∈ ring.entries := by
  simp only [yankPop?] at popped
  split at popped
  · simp at popped
  · split at popped
    · simp at popped
    next several =>
      have inside : (ring.rotation + 1) % ring.entries.length < ring.entries.length :=
        Nat.mod_lt _ (by omega)
      obtain ⟨_, rest⟩ := Prod.ext_iff.1 (Option.some.inj popped)
      obtain ⟨_, rfl⟩ := Prod.ext_iff.1 rest
      rw [List.getD_eq_getElem?_getD, List.getElem?_eq_getElem inside, Option.getD_some]
      exact List.getElem_mem inside

end KillRing

namespace Editor

/-- The candidates that a press of the tab key can choose from. -/
def Offering (editor : Editor) (source : Source) (candidates : List Candidate) : Prop :=
  (∃ session, editor.completion.session? = some session ∧ session.candidates = candidates) ∨
    source.candidates editor.buffer.shown editor.buffer.cursor = candidates

/-- These are the places that an action takes a text for the line from. -/
inductive Supplies (editor : Editor) (source : Source) : Action → Text → Prop where
  | typed (c : Char) : Supplies editor source (.edit (.insert c)) [c]
  | suggested (motion : Motion) {rest : Text} (ghost : editor.ghost? = some rest) :
      Supplies editor source (.motion motion) rest
  | killed {action : Action} (yanks : action.isYank = true) {text : Text}
      (held : text ∈ editor.ring.entries) : Supplies editor source action text
  | offered (direction : TabDirection) {candidates : List Candidate}
      (offering : editor.Offering source candidates) {candidate : Candidate}
      (listed : candidate ∈ candidates) {text : Text} (start : text <+: candidate.value) :
      Supplies editor source direction.action text
  | found {command : Text} (selected : editor.search.selectedCommand? = some command) :
      Supplies editor source (.search .accept) command

/-- These are the lines that an action can leave behind. -/
inductive Leaves (editor : Editor) (source : Source) : Action → LineBuffer → Prop where
  | same (action : Action) : Leaves editor source action editor.buffer
  | performed {action : Action} (operation : LineBuffer.Operation)
      (edit : operation.setsUp = false)
      (supplied : operation.text = [] ∨ editor.Supplies source action operation.text) :
      Leaves editor source action (editor.buffer.perform operation)
  | restored {session : CompletionSession} (held : editor.completion.session? = some session) :
      Leaves editor source .escape
        ((editor.buffer.setDraft session.line).setCursor session.cursor)

section Leaves

variable {editor : Editor} {source : Source}

/-- An operation that brings no text leaves its line whatever the action is. -/
theorem leaves_performed {action : Action} (operation : LineBuffer.Operation)
    (edit : operation.setsUp = false) (empty : operation.text = []) :
    editor.Leaves source action (editor.buffer.perform operation) :=
  .performed operation edit (.inl empty)

theorem buffer_withBuffer? (editor : Editor) (next? : Option LineBuffer) :
    (editor.withBuffer? next?).1.buffer = next?.getD editor.buffer := by
  cases next? <;> rfl

theorem leaves_move (motion : Motion) :
    editor.Leaves source (.motion motion) (editor.move motion).1.buffer := by
  simp only [move]
  split
  next accepted taken =>
    split at taken
    · obtain ⟨rest, ghost, rfl⟩ := Option.map_eq_some_iff.1 taken
      exact .performed (.insert rest) rfl (.inr (.suggested motion ghost))
    · simp at taken
  · rw [buffer_withBuffer?]
    exact leaves_performed (.move motion) rfl rfl

theorem leaves_edit (edit : Edit) :
    editor.Leaves source (.edit edit) (editor.edit edit).1.buffer := by
  cases edit with
  | insert c => exact .performed (.insert [c]) rfl (.inr (.typed c))
  | deleteBefore =>
      rw [Editor.edit, buffer_withBuffer?]
      exact leaves_performed .deleteBefore rfl rfl
  | deleteAfter =>
      rw [Editor.edit, buffer_withBuffer?]
      exact leaves_performed .deleteAfter rfl rfl
  | deleteOrEnd =>
      simp only [Editor.edit]
      split
      · exact .same _
      · rw [buffer_withBuffer?]
        exact leaves_performed .deleteAfter rfl rfl

theorem leaves_yank : editor.Leaves source .yank editor.yank.1.buffer := by
  simp only [yank]
  split
  · exact .same _
  next ring text yanked =>
    exact .performed (.insert text) rfl (.inr (.killed rfl (KillRing.mem_of_yank? yanked)))

theorem leaves_yankPop : editor.Leaves source .yankPop editor.yankPop.1.buffer := by
  simp only [yankPop]
  split
  · exact .same _
  next ring start stop text popped =>
    exact .performed (.replace start stop text) rfl
      (.inr (.killed rfl (KillRing.mem_of_yankPop? popped)))

/-- A selection puts the value of a candidate of the session into the line. -/
theorem leaves_select {session : CompletionSession}
    (offering : editor.Offering source session.candidates) (direction : TabDirection)
    (index : Nat) :
    editor.Leaves source direction.action (session.select editor.buffer index).2 := by
  simp only [CompletionSession.select]
  split
  · exact .same _
  next candidate found =>
    exact .performed (.replace session.start session.stop candidate.value) rfl
      (.inr (.offered direction offering (List.mem_of_getElem? found) List.prefix_rfl))

/-- A press puts a candidate or the common start of all candidates into the line. -/
theorem leaves_press (direction : TabDirection) :
    editor.Leaves source direction.action
      (editor.completion.press editor.buffer source direction.next).2.1 := by
  rcases editor.completion.press_cases editor.buffer source direction.next with
    ⟨session, held, _, moved⟩ | ⟨_, anew⟩
  · rw [moved]
    exact leaves_select (.inl ⟨session, held, rfl⟩) direction _
  · rw [anew]
    have offering : editor.Offering source
        (Completion.opening editor.buffer source).candidates := .inr rfl
    rcases editor.completion.activate_cases editor.buffer source with
      ⟨_, nothing⟩ | ⟨opened, _, opens, answer⟩
    · rw [nothing]
      exact .same _
    · rw [answer]
      cases opens with
      | completed => exact leaves_select offering direction 0
      | selected => exact leaves_select offering direction 0
      | ambiguous => exact .same _
      | @extended shared choice longer =>
          obtain ⟨first, listed⟩ := List.exists_mem_of_length_pos (Nat.zero_lt_of_lt choice)
          refine .performed (.replace _ _ shared) rfl (.inr (.offered direction offering listed ?_))
          have filled : (Completion.opening editor.buffer source).candidates.map
              Candidate.value ≠ [] := by
            simpa using List.ne_nil_of_mem listed
          rw [Completion.eq_commonStart_of_extension? longer]
          exact (Text.isPrefix_commonStart_iff filled).1 List.prefix_rfl _
            (List.mem_map_of_mem listed)

theorem leaves_search (action : SearchAction) :
    editor.Leaves source (.search action) (editor.searchWith action).1.buffer := by
  cases searching : editor.search.active with
  | false =>
      simp only [searchWith, searching, Bool.not_false, if_true]
      exact .same _
  | true =>
      rw [searchWith_eq searching]
      cases action with
      | accept =>
          simp only [lineAfter]
          cases selected : editor.search.selectedCommand? with
          | none => exact .same _
          | some command => exact .performed (.setDraft command) rfl (.inr (.found selected))
      | _ => exact .same _

/-- No action leaves any other line behind. -/
theorem leaves_handle (editor : Editor) (source : Source) (action : Action) :
    editor.Leaves source action (editor.handle source action).1.buffer := by
  cases action with
  | motion motion => exact leaves_move motion
  | edit edit => exact leaves_edit edit
  | kill kill =>
      rw [handle, kill_eq_taken, taken_fst]
      exact leaves_performed (.kill kill) rfl rfl
  | yank => exact leaves_yank
  | yankPop => exact leaves_yankPop
  | historyOlder =>
      rw [handle, buffer_withBuffer?]
      exact leaves_performed .older rfl rfl
  | historyNewer =>
      rw [handle, buffer_withBuffer?]
      exact leaves_performed .newer rfl rfl
  | complete => exact leaves_press .forward
  | completeBack => exact leaves_press .backward
  | escape =>
      simp only [handle, escape, Completion.cancel?]
      cases held : editor.completion.session? with
      | none => exact .same _
      | some session => exact .restored held
  | submit =>
      simp only [handle, submit]
      split
      · exact .same _
      · exact leaves_performed .reset rfl rfl
  | interrupt => exact leaves_performed .reset rfl rfl
  | clearScreen => exact .same _
  | searchStart => exact .same _
  | search action => exact leaves_search action

end Leaves

/-- A paste into the line inserts a single line. -/
theorem buffer_paste (editor : Editor) (text : Text) :
    (editor.paste text).1.buffer =
      if editor.search.active then editor.buffer
      else editor.buffer.perform (.insert text.singleLine) := by
  simp only [paste]
  split <;> rfl

end Editor

end Promptline
