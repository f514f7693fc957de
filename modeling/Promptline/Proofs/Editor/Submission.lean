/-
This file follows a line to its end. Enter submits the text on display unless a selected candidate
takes the key, and after a submission or an interrupt the next line starts from nothing.
-/

import Promptline.Proofs.Editor.Consistency
import Promptline.Proofs.Editor.Searching

namespace Promptline

/-- Enter is bound without control and alt. -/
def Key.IsEnter (key : Key) : Prop :=
  key.modifiers.control = false ∧ key.modifiers.alt = false ∧ key.code = .enter

namespace Key

theorem IsEnter.editAction? {key : Key} (enter : key.IsEnter) :
    key.editAction? = some .submit := by
  obtain ⟨control, alt, code⟩ := enter
  simp only [Key.editAction?, control, alt, code, Bool.false_eq_true, if_false]
  rfl

theorem IsEnter.searchAction? {key : Key} (enter : key.IsEnter) :
    key.searchAction? = some (.search .accept) := Key.searchAction?_eq_accept_iff.2 enter

end Key

/-- The line goes on. -/
structure Effects.Continues (effects : Effects) : Prop where
  unsubmitted : effects.submitted? = none
  uninterrupted : effects.interrupted = false

namespace Effects

theorem continues_clean : clean.Continues := ⟨rfl, rfl⟩

theorem continues_redraw : redraw.Continues := ⟨rfl, rfl⟩

theorem continues_redrawIf (changed : Bool) : (redrawIf changed).Continues := ⟨rfl, rfl⟩

end Effects

namespace Editor

/-- The key goes to the selected candidate in the box. -/
def ChoosesInBox (editor : Editor) : Prop :=
  editor.completion.isBoxed = true ∧ editor.completion.selected?.isSome = true

/-- The next line starts from nothing, and what outlives a line is as it was. -/
structure Renewed (before after : Editor) : Prop where
  draft_eq : after.buffer.draft = []
  displayed : after.buffer.selected = 0
  cursor_eq : after.buffer.cursor = 0
  valid : after.buffer.error? = none
  uncompleted : after.completion.isActive = false
  unsearched : after.search.active = false
  unyanked : after.ring.yanked? = none
  unchained : after.ring.chain? = none
  unsuppressed : after.suppressed = false
  history_eq : after.history = before.history
  recalled : after.buffer.entries = before.buffer.entries
  ring_eq : after.ring.entries = before.ring.entries ∧ after.ring.capacity = before.ring.capacity
  options_eq : after.options = before.options
  checks : after.buffer.limit? = before.buffer.limit? ∧
    after.buffer.validator? = before.buffer.validator?

theorem isActive_of_choosesInBox {editor : Editor} (chosen : editor.ChoosesInBox) :
    editor.completion.isActive = true := by
  obtain ⟨held, _⟩ := (Option.any_eq_true_iff_get _ _).1 chosen.1
  exact held

section Continues

variable (editor : Editor)

theorem continues_withBuffer? (buffer? : Option LineBuffer) :
    (editor.withBuffer? buffer?).2.Continues := by
  cases buffer? with
  | none => exact Effects.continues_clean
  | some => exact Effects.continues_redraw

theorem continues_withSearch? (search? : Option HistorySearch) :
    (editor.withSearch? search?).2.Continues := by
  cases search? with
  | none => exact Effects.continues_clean
  | some => exact Effects.continues_redraw

theorem continues_insert (text : Text) : (editor.insert text).2.Continues :=
  Effects.continues_redrawIf _

theorem continues_move (motion : Motion) : (editor.move motion).2.Continues := by
  simp only [move]
  split
  · exact Effects.continues_redraw
  · exact editor.continues_withBuffer? _

theorem continues_edit (edit : Edit) : (editor.edit edit).2.Continues := by
  cases edit with
  | insert c => exact editor.continues_insert [c]
  | deleteBefore => exact editor.continues_withBuffer? _
  | deleteAfter => exact editor.continues_withBuffer? _
  | deleteOrEnd =>
      simp only [Editor.edit]
      split
      · exact ⟨rfl, rfl⟩
      · exact editor.continues_withBuffer? _

theorem continues_searchWith (action : SearchAction) :
    (editor.searchWith action).2.Continues := by
  simp only [searchWith]
  split
  · exact Effects.continues_clean
  · cases action with
    | accept => exact Effects.continues_redraw
    | _ => exact editor.continues_withSearch? _

/-- Every other action goes on with the line. -/
theorem continues_handle (source : Source) {action : Action} (unsubmitted : action ≠ .submit)
    (uninterrupted : action ≠ .interrupt) : (editor.handle source action).2.Continues := by
  cases action with
  | motion motion => exact editor.continues_move motion
  | edit edit => exact editor.continues_edit edit
  | kill kill =>
      simp only [handle, Editor.kill]
      split
      · exact Effects.continues_clean
      · exact Effects.continues_redraw
  | yank =>
      simp only [handle, Editor.yank]
      split
      · exact Effects.continues_clean
      · exact Effects.continues_redraw
  | yankPop =>
      simp only [handle, Editor.yankPop]
      split
      · exact Effects.continues_clean
      · exact Effects.continues_redraw
  | historyOlder => exact editor.continues_withBuffer? _
  | historyNewer => exact editor.continues_withBuffer? _
  | complete => exact Effects.continues_redrawIf _
  | completeBack => exact Effects.continues_redrawIf _
  | escape =>
      simp only [handle, Editor.escape]
      split
      · exact Effects.continues_clean
      · exact Effects.continues_redraw
  | submit => exact absurd rfl unsubmitted
  | interrupt => exact absurd rfl uninterrupted
  | clearScreen => exact ⟨rfl, rfl⟩
  | searchStart => exact Effects.continues_redraw
  | search action => exact editor.continues_searchWith action

end Continues

/-- The books of an action leave what outlives the line alone, so that a reset renews it. -/
theorem renewed_resetLine (editor : Editor) (action : Action) :
    editor.Renewed { (editor.prepare action).resetLine with suppressed := false } := by
  have active : (editor.prepare action).resetLine.search.active = false := by
    simp only [resetLine]
    split
    · rfl
    next idle => simpa using idle
  exact
    { draft_eq := rfl
      displayed := rfl
      cursor_eq := rfl
      valid := rfl
      uncompleted := rfl
      unsearched := active
      unyanked := rfl
      unchained := rfl
      unsuppressed := rfl
      history_eq := rfl
      recalled := rfl
      ring_eq := ⟨editor.entries_prepare action, editor.capacity_prepare action⟩
      options_eq := rfl
      checks := ⟨rfl, rfl⟩ }

section Enter

variable {editor : Editor} {key : Key} (enter : key.IsEnter) (source : Source)

include enter

/-- Enter on a line leaves the line to a selected candidate in the box, and otherwise submits it. -/
theorem apply_enter_cases (editing : editor.mode = .edit) :
    let answer := editor.apply source (.key key)
    editor.ChoosesInBox ∧ answer.2.submitted? = none ∧ answer.1.buffer = editor.buffer ∧
        answer.1.completion.session? = none ∧ answer.1.mode = .edit ∨
      ¬ editor.ChoosesInBox ∧ answer.2.submitted? = some editor.buffer.shown ∧
        editor.Renewed answer.1 := by
  intro answer
  have performed : answer = editor.perform source .submit :=
    apply_of_editing editing enter.editAction? source
  have asked : (editor.completion.isBoxed && editor.completion.selected?.isSome) = true ↔
      editor.ChoosesInBox := Bool.and_eq_true_iff
  rw [performed]
  by_cases chosen : editor.ChoosesInBox
  · have accepted : editor.completion.accept = (editor.completion.reset, true) := by
      rw [Completion.accept, asked.2 chosen]
    refine .inl ⟨chosen, ?_⟩
    have consumed : ((editor.prepare .submit).handle source .submit) =
        ({ editor.prepare .submit with completion := editor.completion.reset }, .redraw) := by
      have same : (editor.prepare .submit).completion = editor.completion := rfl
      simp only [handle, submit, same, accepted, if_true]
    rw [mode_eq_edit_iff] at editing ⊢
    simp only [perform, consumed]
    exact ⟨rfl, rfl, rfl, editing⟩
  · have refused : editor.completion.accept = (editor.completion.reset, false) := by
      rw [Completion.accept, Bool.eq_false_iff.2 (mt asked.1 chosen)]
    refine .inr ⟨chosen, ?_⟩
    have left : ((editor.prepare .submit).handle source .submit) =
        ((editor.prepare .submit).resetLine, .submit editor.buffer.shown) := by
      have same : (editor.prepare .submit).completion = editor.completion := rfl
      simp only [handle, submit, same, refused, Bool.false_eq_true, if_false]
      rfl
    simp only [perform, left]
    exact ⟨rfl, editor.renewed_resetLine .submit⟩

/-- Enter in a search ends it, and there is no session behind a search. -/
theorem apply_enter_of_searching (searching : editor.search.active = true) :
    let answer := editor.apply source (.key key)
    answer.2.submitted? = none ∧ answer.1.mode = .edit ∧
      answer.1.completion.session? = none := by
  intro answer
  have performed : answer = editor.perform source (.search .accept) :=
    apply_of_searching searching enter.searchAction? source
  have prepared : (editor.prepare (.search .accept)).search.active = true := searching
  have handled := searchWith_eq prepared .accept
  have goesOn := (editor.prepare (.search .accept)).continues_searchWith .accept
  rw [performed, mode_eq_edit_iff]
  refine ⟨goesOn.unsubmitted, ?_, ?_⟩
  · simp only [perform, handle, handled]
    rfl
  · simp only [perform, handle, handled]
    exact editor.session?_prepare rfl

end Enter

/-- Only a submission and an interrupt end a line, and both renew it. -/
theorem renewed_of_ended (editor : Editor) (source : Source) (event : Event) :
    let answer := editor.apply source event
    answer.2.submitted?.isSome = true ∨ answer.2.interrupted = true →
      editor.Renewed answer.1 := by
  intro answer ended
  have goesOn : ¬ answer.2.Continues := by
    rintro ⟨unsubmitted, uninterrupted⟩
    rcases ended with submitted | interrupted
    · simp [unsubmitted] at submitted
    · simp [uninterrupted] at interrupted
  cases event with
  | paste text =>
      refine absurd ?_ goesOn
      change (editor.paste text).2.Continues
      simp only [paste]
      split <;> exact Effects.continues_redraw
  | resize size => exact absurd Effects.continues_redraw goesOn
  | key key =>
      cases bound : key.action? editor.mode with
      | none =>
          refine absurd ?_ goesOn
          simp only [answer, apply, bound]
          exact Effects.continues_clean
      | some action =>
          have performed : answer = editor.perform source action := by
            simp only [answer, apply, bound]
          rw [performed] at goesOn ⊢
          have handled : ¬ ((editor.prepare action).handle source action).2.Continues :=
            fun still => goesOn ⟨still.unsubmitted, still.uninterrupted⟩
          by_cases submits : action = .submit
          · subst submits
            simp only [perform, handle, submit]
            split
            next accepted =>
              refine absurd ?_ handled
              simp only [handle, submit, accepted, if_true]
              exact Effects.continues_redraw
            · exact editor.renewed_resetLine .submit
          · by_cases interrupts : action = .interrupt
            · subst interrupts
              exact editor.renewed_resetLine .interrupt
            · exact absurd (continues_handle _ source submits interrupts) handled

/-- Enter on a line submits the text on display as it is, or it goes to the selected candidate in
the box and only ends the session. The next Enter then submits what is on display, also where the
first one was for a search. Whatever ends a line renews it and leaves the history, the ring and the
options as they are. -/
theorem line_ends_with_enter (editor : Editor) {key : Key} (enter : key.IsEnter) (source : Source) :
    let first := editor.apply source (.key key)
    (editor.mode = .edit →
      ¬ editor.ChoosesInBox ∧ first.2.submitted? = some editor.buffer.shown ∨
        editor.ChoosesInBox ∧ first.2.submitted? = none ∧
          editor.completion.isActive = true ∧ first.1.completion.isActive = false ∧
          first.1.buffer.shown = editor.buffer.shown ∧
          first.1.buffer.cursor = editor.buffer.cursor) ∧
      (first.2.submitted? = none → ∀ (next : Key) (other : Source), next.IsEnter →
        (first.1.apply other (.key next)).2.submitted? = some first.1.buffer.shown) ∧
      ∀ (other : Source) (event : Event), let last := editor.apply other event
        last.2.submitted?.isSome = true ∨ last.2.interrupted = true → editor.Renewed last.1 := by
  intro first
  have resubmits {after : Editor} (editing : after.mode = .edit)
      (idle : after.completion.session? = none) (next : Key) (other : Source)
      (again : next.IsEnter) :
      (after.apply other (.key next)).2.submitted? = some after.buffer.shown := by
    rcases apply_enter_cases again other editing with ⟨⟨boxed, _⟩, _⟩ | ⟨_, submitted, _⟩
    · simp [Completion.isBoxed, idle] at boxed
    · exact submitted
  refine ⟨fun editing => ?_, fun unsubmitted => ?_, editor.renewed_of_ended⟩
  · rcases apply_enter_cases enter source editing with
      ⟨chosen, unsubmitted, line, idle, _⟩ | ⟨unchosen, submitted, _⟩
    · refine .inr ⟨chosen, unsubmitted, isActive_of_choosesInBox chosen, ?_, ?_, ?_⟩
      · rw [Completion.isActive, idle, Option.isSome_none]
      · exact congrArg LineBuffer.shown line
      · exact congrArg LineBuffer.cursor line
    · exact .inl ⟨unchosen, submitted⟩
  · cases searching : editor.search.active with
    | true =>
        obtain ⟨_, editing, idle⟩ := apply_enter_of_searching enter source searching
        exact resubmits editing idle
    | false =>
        rcases apply_enter_cases enter source (mode_eq_edit_iff.2 searching) with
          ⟨_, _, _, idle, editing⟩ | ⟨_, submitted, _⟩
        · exact resubmits editing idle
        · exact absurd (submitted.symm.trans unsubmitted) (Option.some_ne_none _)

/-- After a kill and a tab the first of two candidates is in the line, the first Enter is for it,
and the second one submits it. Ctrl-C in its place ends the line, and the killed word stays. -/
theorem line_ends_after_candidate :
    let source := Source.ofCandidates fun _ _ =>
      [.ofValue (Text.of "ls"), .ofValue (Text.of "rm")]
    let enter := Key.plain .enter
    let editor := (small none [Text.of "ls"]).run (pressed source
      [.typed 'a', .control 'w', .plain .tab])
    let first := editor.apply source (.key enter)
    let last := editor.apply source (.key (.control 'c'))
    enter.IsEnter ∧ editor.mode = .edit ∧ editor.ChoosesInBox ∧ first.2.submitted? = none ∧
      first.1.buffer.shown = Text.of "ls" ∧ first.1.completion.isActive = false ∧
      (first.1.apply source (.key enter)).2.submitted? = some (Text.of "ls") ∧
      last.2.interrupted = true ∧ editor.Renewed last.1 ∧
      last.1.ring.entries = [Text.of "a"] := by
  intro source enter editor
  dsimp only
  have pressed : enter.IsEnter := ⟨rfl, rfl, rfl⟩
  have editing : editor.mode = .edit := by decide
  have chosen : editor.ChoosesInBox := ⟨by decide, by decide⟩
  have shown : editor.buffer.shown = Text.of "ls" := by decide
  have interrupted : (editor.apply source (.key (.control 'c'))).2.interrupted = true := by decide
  have killed : editor.ring.entries = [Text.of "a"] := by decide
  obtain ⟨answers, resubmits, renews⟩ := editor.line_ends_with_enter pressed source
  have renewed := renews source _ (.inr interrupted)
  rcases answers editing with ⟨unchosen, _⟩ | ⟨_, unsubmitted, _, idle, kept, _⟩
  · exact absurd chosen unchosen
  · have displayed := kept.trans shown
    have submitted := resubmits unsubmitted enter source pressed
    rw [displayed] at submitted
    exact ⟨pressed, editing, chosen, unsubmitted, displayed, idle, submitted, interrupted, renewed,
      renewed.ring_eq.1.trans killed⟩

end Editor

end Promptline
