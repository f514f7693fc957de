/-
This file describes the editors that events and calls of the host can reach. The editor changes its
line by the operations of the line alone, so its line is a reachable one.
-/

import Promptline.Proofs.Editor.Handling

namespace Promptline

/-- A source that completes the empty line only. -/
def Source.onEmptyLine (value : Text) : Source :=
  .ofCandidates fun line _ => if line = [] then [.ofValue value] else []

/-- The event is a key without a binding or another size of the screen. -/
inductive Event.Waits (mode : InputMode) : Event → Prop where
  | unbound {key : Key} (free : key.action? mode = none) : Waits mode (.key key)
  | resize (size : ScreenSize) : Waits mode (.resize size)

namespace Editor

/-- Such an event changes at most the size of the screen. -/
theorem apply_of_waits {editor : Editor} {event : Event} (waits : event.Waits editor.mode)
    (source : Source) : ∃ size, (editor.apply source event).1 = { editor with size } := by
  cases waits with
  | unbound free =>
      refine ⟨editor.size, ?_⟩
      simp only [apply, free]
  | resize size => exact ⟨size, rfl⟩

/-- Outside the search a key does what it is bound to in the table for editing. -/
theorem apply_of_editing {editor : Editor} (editing : editor.mode = .edit) {key : Key}
    {action : Action} (bound : key.editAction? = some action) (source : Source) :
    editor.apply source (.key key) = editor.perform source action := by
  have found : key.action? editor.mode = some action := by
    rw [editing]
    exact bound
  simp only [apply, found]

/-- A new editor has any options, and its host tells it the directory, the size of the screen and a
validator. -/
def started (options : EditorOptions) (directory : Text) (size : ScreenSize)
    (validator? : Option Validator) : Editor :=
  { ofOptions options with
    buffer := (LineBuffer.empty options.limit?).setValidator validator?
    directory
    size }

/-- A reachable editor is a new one that has seen any events and histories since. The source can be
another one for each event. -/
inductive Reachable : Editor → Prop where
  | started (options : EditorOptions) (directory : Text) (size : ScreenSize)
      (validator? : Option Validator) : Reachable (started options directory size validator?)
  | setHistory {editor : Editor} (reachable : Reachable editor) (history : List HistoryItem) :
      Reachable (editor.setHistory history)
  | pushHistory {editor : Editor} (reachable : Reachable editor) (item : HistoryItem) :
      Reachable (editor.pushHistory item)
  | apply {editor : Editor} (reachable : Reachable editor) (source : Source) (event : Event) :
      Reachable (editor.apply source event).1

/-- An editor on a small screen that knows some commands. -/
def small (limit? : Option Nat) (commands : List Text) : Editor :=
  (started { EditorOptions.standard with limit?, prompt := [] } [] ⟨3, 1⟩ none).setHistory
    (commands.map fun command => ⟨command, []⟩)

theorem reachable_small (limit? : Option Nat) (commands : List Text) :
    (small limit? commands).Reachable := (Reachable.started _ _ _ _).setHistory _

/-- The editor after some events, each with the source that it asks. -/
def run (editor : Editor) : List (Source × Event) → Editor
  | [] => editor
  | (source, event) :: rest => (editor.apply source event).1.run rest

theorem run_append (editor : Editor) (first second : List (Source × Event)) :
    editor.run (first ++ second) = (editor.run first).run second := by
  induction first generalizing editor with
  | nil => rfl
  | cons event rest inductionHypothesis => exact inductionHypothesis _

/-- The keys, each with the source that it asks. -/
def pressed (source : Source) (keys : List Key) : List (Source × Event) :=
  keys.map fun key => (source, .key key)

theorem run_pressed_append (editor : Editor) (source : Source) (first second : List Key) :
    editor.run (pressed source (first ++ second)) =
      (editor.run (pressed source first)).run (pressed source second) := by
  rw [pressed, List.map_append, run_append]
  rfl

theorem Reachable.run {editor : Editor} (reachable : editor.Reachable)
    (events : List (Source × Event)) : (editor.run events).Reachable := by
  induction events generalizing editor with
  | nil => exact reachable
  | cons event rest inductionHypothesis =>
      exact inductionHypothesis (reachable.apply event.1 event.2)

theorem edits_paste (editor : Editor) (text : Text) :
    editor.buffer.Edits (editor.paste text).1.buffer := by
  simp only [paste]
  split
  · exact .refl
  · exact LineBuffer.Edits.refl.perform (.insert text.singleLine) rfl

/-- Every event works on the line by operations of the line. -/
theorem edits_apply (editor : Editor) (source : Source) (event : Event) :
    editor.buffer.Edits (editor.apply source event).1.buffer := by
  cases event with
  | key key =>
      simp only [apply]
      split
      · exact .refl
      next action _ => exact ((editor.prepare action).handles source action).edits
  | paste text => exact editor.edits_paste text
  | resize size => exact .refl

/-- The line of a reachable editor is reachable. -/
theorem Reachable.line {editor : Editor} (reachable : editor.Reachable) :
    editor.buffer.Reachable := by
  induction reachable with
  | started options directory size validator? =>
      exact (LineBuffer.Reachable.empty options.limit?).perform (.setValidator validator?)
  | setHistory _ history inductionHypothesis => exact inductionHypothesis.perform (.setEntries _)
  | pushHistory _ item inductionHypothesis => exact inductionHypothesis.perform (.setEntries _)
  | @apply editor _ source event inductionHypothesis =>
      exact (editor.edits_apply source event).reachable inductionHypothesis

end Editor

end Promptline
