/-
This file follows an editor from the key that opens a session to the escape key. The session keeps
the line and the cursor that it was opened on, and escape brings them back as far as they fit.
-/

import Mathlib.Data.List.TakeDrop
import Promptline.Proofs.Editor.Session

namespace Promptline

/-- A selection keeps what the session was opened with. -/
theorem CompletionSession.select_keeps (session : CompletionSession) (buffer : LineBuffer)
    (index : Nat) :
    let selected := (session.select buffer index).1
    selected.candidates = session.candidates ∧ selected.line = session.line ∧
      selected.cursor = session.cursor := by
  simp only [CompletionSession.select]
  split <;> exact ⟨rfl, rfl, rfl⟩

namespace Completion

/-- A session is opened on the line and the cursor of the press. -/
theorem Opens.opened_on {eager : Bool} {buffer : LineBuffer} {source : Source}
    {opened : CompletionSession × LineBuffer} {outcome : TabOutcome}
    (opens : Opens eager buffer source opened outcome) :
    opened.1.line = buffer.shown ∧ opened.1.cursor = buffer.cursor := by
  cases opens with
  | completed => exact (CompletionSession.select_keeps _ buffer 0).2
  | extended => exact ⟨rfl, rfl⟩
  | selected => exact (CompletionSession.select_keeps _ buffer 0).2
  | ambiguous => exact ⟨rfl, rfl⟩

end Completion

namespace LineBuffer

theorem cut_eq_self {limit? : Option Nat} {text : Text} :
    cut limit? text = text ↔ ∀ limit, limit? = some limit → text.length ≤ limit := by
  cases limit? with
  | none => simp [cut]
  | some limit =>
      simp only [cut, Option.some.injEq, forall_eq']
      exact List.take_eq_self_iff text

end LineBuffer

namespace Editor

/-- The limit of the line is a matter of the options. -/
theorem limit?_run (editor : Editor) (events : List (Source × Event)) :
    (editor.run events).buffer.limit? = editor.buffer.limit? := by
  induction events generalizing editor with
  | nil => rfl
  | cons event rest inductionHypothesis =>
      rw [run, inductionHypothesis]
      exact (editor.edits_apply event.1 event.2).limit?

/-- The tab key presses the completion and nothing else that is seen. -/
theorem apply_tab {editor : Editor} (editing : editor.mode = .edit) {key : Key}
    {direction : TabDirection} (bound : key.editAction? = some direction.action)
    (source : Source) :
    let after := (editor.apply source (.key key)).1
    let pressed := editor.completion.press editor.buffer source direction.next
    after.completion = pressed.1 ∧ after.buffer = pressed.2.1 ∧ after.mode = .edit := by
  have kept : (editor.prepare direction.action).completion = editor.completion := by
    simp only [prepare, TabDirection.drivesCompletion_action, if_true]
  dsimp only
  rw [apply_of_editing editing bound]
  simp only [perform, handle_action, completeWith, kept]
  exact ⟨rfl, rfl, editing⟩

/-- The editor goes through a choice that was opened on a line and a cursor. -/
structure Chooses (editor : Editor) (line : Text) (cursor : Nat) : Prop where
  editing : editor.mode = .edit
  held : ∃ session, editor.completion.session? = some session ∧
    1 < session.candidates.length ∧ session.line = line ∧ session.cursor = cursor

/-- The first press opens the choice on the line as it stands. -/
theorem chooses_of_opened {editor : Editor} (editing : editor.mode = .edit)
    (idle : editor.completion.isActive = false) {key : Key} {direction : TabDirection}
    (bound : key.editAction? = some direction.action) {source : Source}
    {session : CompletionSession}
    (opened : (editor.apply source (.key key)).1.completion.session? = some session)
    (choice : 1 < session.candidates.length) :
    (editor.apply source (.key key)).1.Chooses editor.buffer.shown editor.buffer.cursor := by
  obtain ⟨completion, _, mode⟩ := apply_tab editing bound source
  refine ⟨mode, session, opened, choice, ?_⟩
  have none := Completion.session?_of_inactive idle
  rw [completion] at opened
  simp only [Completion.press, none] at opened
  rcases editor.completion.activate_cases editor.buffer source with
    ⟨_, nothing⟩ | ⟨held, outcome, opens, answer⟩
  · rw [nothing] at opened
    simp [Completion.reset] at opened
  · rw [answer] at opened
    obtain rfl := Option.some.inj opened
    exact opens.opened_on

/-- Another press stays in the choice. -/
theorem Chooses.press {editor : Editor} {line : Text} {cursor : Nat}
    (chooses : editor.Chooses line cursor) {key : Key} {direction : TabDirection}
    (bound : key.editAction? = some direction.action) (source : Source) :
    (editor.apply source (.key key)).1.Chooses line cursor := by
  obtain ⟨session, held, choice, sameLine, sameCursor⟩ := chooses.held
  obtain ⟨completion, _, mode⟩ := apply_tab chooses.editing bound source
  refine ⟨mode, ?_⟩
  have active : editor.completion = ⟨some session, editor.completion.eager⟩ := by
    rw [← held]
  rw [active, Completion.press_of_choice choice] at completion
  obtain ⟨candidates, keptLine, keptCursor⟩ := session.select_keeps editor.buffer
    (direction.next session.candidates.length session.selected?)
  exact ⟨_, congrArg Completion.session? completion, by rwa [candidates], keptLine.trans sameLine,
    keptCursor.trans sameCursor⟩

/-- The events of some presses, each with the source that it asks. -/
def presses (keys : List (Source × Key)) : List (Source × Event) :=
  keys.map fun press => (press.1, .key press.2)

/-- Any number of presses stays in the choice. -/
theorem Chooses.run {editor : Editor} {line : Text} {cursor : Nat}
    (chooses : editor.Chooses line cursor) {keys : List (Source × Key)}
    (tabs : ∀ press ∈ keys, ∃ direction : TabDirection,
      press.2.editAction? = some direction.action) :
    (editor.run (presses keys)).Chooses line cursor := by
  induction keys generalizing editor with
  | nil => exact chooses
  | cons press rest inductionHypothesis =>
      obtain ⟨direction, bound⟩ := tabs press List.mem_cons_self
      exact inductionHypothesis (chooses.press bound press.1) fun other member =>
        tabs other (List.mem_cons_of_mem press member)

/-- Escape ends the choice and puts the line and the cursor back. -/
theorem Chooses.escape {editor : Editor} {line : Text} {cursor : Nat}
    (chooses : editor.Chooses line cursor) {key : Key}
    (bound : key.editAction? = some .escape) (source : Source) :
    let after := (editor.apply source (.key key)).1
    after.completion.isActive = false ∧
      after.buffer = (editor.buffer.setDraft line).setCursor cursor := by
  obtain ⟨session, held, _, sameLine, sameCursor⟩ := chooses.held
  have kept : (editor.prepare .escape).completion = editor.completion := rfl
  dsimp only
  rw [apply_of_editing chooses.editing bound]
  simp only [perform, handle, Editor.escape, kept, Completion.cancel?, held, Option.map_some,
    sameLine, sameCursor]
  exact ⟨rfl, rfl⟩

/-- After a choice escape brings back the line and the cursor from before it, cut to the limit. So
it undoes the choice exactly where the line was within the limit. -/
theorem escape_after_presses {editor : Editor} (reachable : editor.Reachable)
    (editing : editor.mode = .edit) (idle : editor.completion.isActive = false) {key : Key}
    {direction : TabDirection} (bound : key.editAction? = some direction.action)
    {source : Source} {session : CompletionSession}
    (opened : (editor.apply source (.key key)).1.completion.session? = some session)
    (choice : 2 ≤ session.candidates.length) {keys : List (Source × Key)}
    (tabs : ∀ press ∈ keys, ∃ direction : TabDirection,
      press.2.editAction? = some direction.action)
    {leave : Key} (leaves : leave.editAction? = some .escape) (asked : Source) :
    let chosen := (editor.apply source (.key key)).1.run (presses keys)
    let after := (chosen.apply asked (.key leave)).1
    let line := LineBuffer.cut editor.buffer.limit? editor.buffer.shown
    after.completion.isActive = false ∧ after.buffer.shown = line ∧
      after.buffer.cursor = min editor.buffer.cursor line.length ∧
      (after.buffer.shown = editor.buffer.shown ∧ after.buffer.cursor = editor.buffer.cursor ↔
        ∀ limit, editor.buffer.limit? = some limit → editor.buffer.length ≤ limit) := by
  intro chosen after line
  have chooses : chosen.Chooses editor.buffer.shown editor.buffer.cursor :=
    (chooses_of_opened editing idle bound opened choice).run tabs
  obtain ⟨ended, restored⟩ := chooses.escape leaves asked
  have limit : chosen.buffer.limit? = editor.buffer.limit? := by
    rw [limit?_run]
    exact (editor.edits_apply source (.key key)).limit?
  have shown : after.buffer.shown = line := by
    change after.buffer.shown = LineBuffer.cut editor.buffer.limit? editor.buffer.shown
    rw [restored, ← limit]
    rfl
  have cursor : after.buffer.cursor = min editor.buffer.cursor line.length := by
    change _ = min _ (LineBuffer.cut editor.buffer.limit? editor.buffer.shown).length
    rw [restored, ← limit]
    rfl
  refine ⟨ended, shown, cursor, ?_⟩
  rw [shown, cursor]
  constructor
  · intro undone
    exact LineBuffer.cut_eq_self.1 undone.1
  · intro fits
    have whole : line = editor.buffer.shown := LineBuffer.cut_eq_self.2 fits
    rw [whole]
    exact ⟨rfl, Nat.min_eq_left reachable.line.bounded.cursor_le⟩

/-- Escape gives back a short draft after a round through the candidates. -/
theorem escape_after_round :
    let source := Source.ofCandidates fun _ _ =>
      [.ofValue (Text.of "aa"), .ofValue (Text.of "ab")]
    let tab := Key.plain .tab
    let back : Key := ⟨.tab, ⟨false, false, true⟩⟩
    let editor := (small (some 3) [Text.of "echo"]).run [(source, .key (.typed 'e'))]
    let chosen := (editor.apply source (.key tab)).1.run (presses [(source, tab), (source, back)])
    let after := (chosen.apply source (.key (.plain .escape))).1
    editor.Reachable ∧ editor.mode = .edit ∧ editor.completion.isActive = false ∧
      chosen.buffer.shown = Text.of "aa" ∧ after.completion.isActive = false ∧
      after.buffer.shown = editor.buffer.shown ∧
      after.buffer.cursor = editor.buffer.cursor := by
  intro source tab back editor
  dsimp only
  have reachable : editor.Reachable := (reachable_small _ _).run _
  have editing : editor.mode = .edit := by decide
  have idle : editor.completion.isActive = false := by decide
  have bound : tab.editAction? = some TabDirection.forward.action := rfl
  obtain ⟨session, opened, choice⟩ : ∃ session,
      (editor.apply source (.key tab)).1.completion.session? = some session ∧
        2 ≤ session.candidates.length := ⟨_, rfl, by decide⟩
  have leaves : (Key.plain .escape).editAction? = some .escape := rfl
  have tabs : ∀ press ∈ [(source, tab), (source, back)], ∃ direction : TabDirection,
      press.2.editAction? = some direction.action := by
    intro press member
    rcases List.mem_cons.1 member with rfl | last
    · exact ⟨.forward, rfl⟩
    · obtain rfl := List.mem_singleton.1 last
      exact ⟨.backward, rfl⟩
  obtain ⟨ended, _, _, undone⟩ := escape_after_presses reachable editing idle bound opened
    choice tabs leaves source
  obtain ⟨shown, cursor⟩ := undone.2 (by decide)
  exact ⟨reachable, editing, idle, by decide, ended, shown, cursor⟩

/-- A recalled command beyond the limit does not come back whole. -/
theorem escape_cuts_recalled_command :
    let source := Source.ofCandidates fun _ _ =>
      [.ofValue (Text.of "aa"), .ofValue (Text.of "ab")]
    let editor := (small (some 3) [Text.of "echo"]).run [(source, .key (.plain .up))]
    let chosen := (editor.apply source (.key (.plain .tab))).1
    let after := (chosen.apply source (.key (.plain .escape))).1
    editor.Reachable ∧ editor.mode = .edit ∧ editor.completion.isActive = false ∧
      chosen.completion.candidates.length = 2 ∧ editor.buffer.shown = Text.of "echo" ∧
      editor.buffer.cursor = 4 ∧ after.buffer.shown = Text.of "ech" ∧
      after.buffer.cursor = 3 := by
  intro source editor chosen after
  exact ⟨(reachable_small _ _).run _, by decide, by decide, by decide, by decide, by decide,
    by decide, by decide⟩

end Editor

end Promptline
