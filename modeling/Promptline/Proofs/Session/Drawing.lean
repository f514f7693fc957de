/-
This file shows that a terminal session is drawn as long as the screen is narrower than the widest
one. No event but another size changes the size of the screen, so a session that starts on a narrow
screen is drawn to its end.
-/

import Promptline.Proofs.Editor.Reachable
import Promptline.Proofs.Screen.Frame
import Promptline.Session.Terminal

namespace Promptline

/-- The screen is narrower than the widest one, and its rows can be counted. -/
structure ScreenSize.Narrow (size : ScreenSize) : Prop where
  columns : size.columns < 65535
  rows : size.rows ≤ 65535

/-- The event leaves a narrow screen narrow. -/
def Event.KeepsNarrow : Event → Prop
  | .resize size => size.Narrow
  | .key _ | .paste _ => True

namespace Editor

theorem Handles.size {editor after : Editor} {source : Source} {action : Action}
    (handles : editor.Handles source action after) : after.size = editor.size := by
  cases handles <;> rfl

/-- Keys and pasted texts leave the size of the screen alone. -/
theorem size_apply (editor : Editor) (source : Source) (event : Event) :
    (editor.apply source event).1.size =
      match event with
      | .resize size => size
      | .key _ | .paste _ => editor.size := by
  cases event with
  | key key =>
      simp only [apply]
      split
      · rfl
      next action _ => exact ((editor.prepare action).handles source action).size
  | paste text =>
      simp only [apply, paste]
      split <;> rfl
  | resize size => rfl

theorem narrow_apply {editor : Editor} (narrow : editor.size.Narrow) (source : Source)
    {event : Event} (keeps : event.KeepsNarrow) :
    (editor.apply source event).1.size.Narrow := by
  rw [size_apply]
  cases event with
  | resize size => exact keeps
  | key _ | paste _ => exact narrow

/-- On a narrow screen every row has room for its drawing. -/
theorem exists_compose {editor : Editor} (narrow : editor.size.Narrow) :
    ∃ composed, editor.compose = some composed := by
  have word := Nat.le_of_lt narrow.columns
  have drawable : editor.Drawable := drawable_of_ne (Nat.ne_of_lt narrow.columns)
  cases searching : editor.search.active with
  | true => exact ⟨_, (compose_of_searching searching word narrow.rows).trans (if_pos drawable)⟩
  | false => exact ⟨_, (compose_of_editing searching word).trans (if_pos drawable)⟩

end Editor

namespace TerminalSession

/-- The state after an event, whatever is drawn, unless the session has ended. -/
def next? (state : TerminalSession) (event : Event) : Option TerminalSession :=
  let (editor, effects) := state.editor.apply state.session.source event
  (settle { state with editor } effects).2

section Narrow

variable {state : TerminalSession} (narrow : state.editor.size.Narrow)

include narrow

theorem exists_repaint : ∃ written, state.repaint = some written := by
  obtain ⟨composed, found⟩ := Editor.exists_compose narrow
  rw [repaint, found]
  exact ⟨_, rfl⟩

/-- The text is drawn into what the prompt leaves of its row. -/
theorem exists_leaveLine (text : Text) : ∃ written, state.leaveLine text = some written := by
  have apart := Nat.ne_of_lt narrow.columns
  let prompt : Drawing :=
    state.editor.options.prompt.clusters.map fun cluster => (cluster, .none)
  let line : Drawing := text.clusters.map fun cluster => (cluster, .none)
  let front := (prompt.fitting state.editor.size.columns).cells
  let room := state.editor.size.columns - (prompt.fitting state.editor.size.columns).total
  have reached : front.length = (prompt.fitting state.editor.size.columns).total :=
    Drawing.length_cells _
  have wide : front.length + room = state.editor.size.columns := by
    have inside := prompt.total_fitting_le state.editor.size.columns
    omega
  have below := Compose.height_blank_pos state.editor.size.columns 0
  have first := @Frame.put_blank _ 0 below _ (Compose.row_blank _ 0) (Nat.le_of_lt narrow.columns)
    state.editor.options.prompt .none prompt rfl
  have behind := @Frame.put_append _ 0 (by rwa [Frame.height_setRow]) front room
    (Frame.row_setRow below _) (by rw [wide]; exact Nat.le_of_lt narrow.columns) text .none line rfl
  have drawable : prompt.Drawable state.editor.size.columns := fun widest => absurd widest apart
  have further : line.DrawableFrom front.length (front.length + room) := fun widest =>
    absurd (wide.symm.trans widest) apart
  rw [if_pos drawable] at first
  rw [if_pos further, reached] at behind
  rw [leaveLine, first]
  simp only [Option.bind_eq_bind, Option.bind_some]
  rw [show Row.painted state.editor.size.columns prompt = front ++ Row.blank room from rfl, behind]
  exact ⟨_, rfl⟩

theorem exists_leaveLines (lines : List Text) :
    ∃ written, state.leaveLines lines = some written := by
  induction lines with
  | nil => exact ⟨[], rfl⟩
  | cons line rest inductionHypothesis =>
      obtain ⟨first, drawn⟩ := exists_leaveLine narrow line
      obtain ⟨others, below⟩ := inductionHypothesis
      rw [leaveLines, drawn, below]
      exact ⟨first ++ others, rfl⟩

theorem exists_refresh (effects : Effects) : ∃ written, state.refresh effects = some written := by
  obtain ⟨drawn, painted⟩ := exists_repaint narrow
  rw [refresh, painted]
  split
  · exact ⟨_, rfl⟩
  · exact ⟨_, rfl⟩

omit narrow in
/-- A session that goes on keeps its screen. -/
theorem size_of_settle {effects : Effects} {printed : Text} {next : TerminalSession}
    (settled : state.settle effects = (printed, some next)) :
    next.editor.size = state.editor.size := by
  unfold settle submit at settled
  split at settled
  · cases settled
  · split at settled
    · split at settled
      · cases settled
      · cases settled
        split <;> rfl
    · cases settled
      rfl

theorem narrow_next? {event : Event} (keeps : event.KeepsNarrow) {next : TerminalSession}
    (went : state.next? event = some next) : next.editor.size.Narrow := by
  have kept := Editor.narrow_apply narrow state.session.source keeps
  have settled := @size_of_settle { state with
    editor := (state.editor.apply state.session.source event).1 }
    (state.editor.apply state.session.source event).2 _ next (Prod.ext rfl went)
  rw [settled]
  exact kept

/-- On a narrow screen what is done with an event is drawn. -/
theorem exists_step {event : Event} (keeps : event.KeepsNarrow) :
    ∃ written, state.step event = some (written, state.next? event) := by
  have goesOn := fun next => @narrow_next? state narrow event keeps next
  cases applied : state.editor.apply state.session.source event with
  | mk editor effects =>
      have kept := Editor.narrow_apply narrow state.session.source keeps
      rw [applied] at kept
      let after : TerminalSession := { state with editor }
      have settles : state.next? event = (after.settle effects).2 := by
        simp only [next?, applied, after]
      obtain ⟨left, drawn⟩ := @exists_leaveLines after kept
        (leftLines state.editor.buffer.shown effects)
      rw [settles] at goesOn ⊢
      simp only [step, applied, carryOut]
      rw [show after.leaveLines _ = _ from drawn]
      cases settled : after.settle effects with
      | mk printed next? =>
          cases next? with
          | none => exact ⟨_, rfl⟩
          | some next =>
              obtain ⟨behind, painted⟩ := exists_refresh (goesOn next (by rw [settled])) effects
              simp only [Option.bind_eq_bind, Option.bind_some, painted]
              exact ⟨_, rfl⟩

/-- On a narrow screen the events are drawn until the session ends. -/
theorem exists_runEvents {events : List Event} (keep : ∀ event ∈ events, event.KeepsNarrow) :
    ∃ written, state.runEvents events = some written := by
  induction events generalizing state with
  | nil => exact ⟨[], rfl⟩
  | cons event rest inductionHypothesis =>
      obtain ⟨first, later⟩ := List.forall_mem_cons.1 keep
      obtain ⟨written, stepped⟩ := exists_step narrow first
      rw [runEvents, stepped]
      cases went : state.next? event with
      | none => exact ⟨written, rfl⟩
      | some next =>
          obtain ⟨behind, drawn⟩ := inductionHypothesis (narrow_next? narrow first went) later
          simp only [Option.bind_eq_bind, Option.bind_some, drawn]
          exact ⟨written ++ behind, rfl⟩

/-- On a narrow screen a whole run is drawn. -/
theorem exists_run {events : List Event} (keep : ∀ event ∈ events, event.KeepsNarrow) :
    ∃ written, state.run events = some written := by
  obtain ⟨first, painted⟩ := exists_repaint narrow
  obtain ⟨written, drawn⟩ := exists_runEvents narrow keep
  rw [run, painted, drawn]
  exact ⟨_, rfl⟩

end Narrow

end TerminalSession

end Promptline
