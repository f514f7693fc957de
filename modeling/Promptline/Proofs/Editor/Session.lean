/-
This file follows the completion session of a reachable editor. A session always has candidates, its
selection is one of them, and its box is open exactly when there is a choice.
-/

import Promptline.Proofs.Completion.Cycle
import Promptline.Proofs.Editor.Reachable

namespace Promptline

/-- A session has something to offer, and the box shows a choice. -/
structure CompletionSession.Offered (session : CompletionSession) : Prop where
  offers : session.candidates ≠ []
  known : ∀ index, session.selected? = some index → index < session.candidates.length
  boxed_eq : session.boxed = decide (session.candidates.length ≠ 1)

namespace CompletionSession

/-- A selection changes the span and the selected candidate only. -/
theorem Offered.select {session : CompletionSession} (offered : session.Offered)
    (buffer : LineBuffer) (index : Nat) : (session.select buffer index).1.Offered := by
  simp only [CompletionSession.select]
  split
  · exact offered
  next candidate found =>
    refine ⟨offered.offers, fun chosen same => ?_, offered.boxed_eq⟩
    obtain rfl := Option.some.inj same
    exact (List.getElem?_eq_some_iff.1 found).1

end CompletionSession

namespace Completion

/-- A completion without a session is in order. -/
def Offers (completion : Completion) : Prop :=
  ∀ session, completion.session? = some session → session.Offered

theorem offers_of_idle {completion : Completion} (idle : completion.session? = none) :
    completion.Offers := by
  intro session held
  simp [idle] at held

theorem offered_opening {buffer : LineBuffer} {source : Source}
    (offers : (opening buffer source).candidates ≠ []) : (opening buffer source).Offered where
  offers := offers
  known index chosen := by simp [opening] at chosen
  boxed_eq := rfl

theorem Opens.offered {eager : Bool} {buffer : LineBuffer} {source : Source}
    {opened : CompletionSession × LineBuffer} {outcome : TabOutcome}
    (opens : Opens eager buffer source opened outcome) : opened.1.Offered := by
  have base (counted : 0 < (opening buffer source).candidates.length) :
      (opening buffer source).Offered := offered_opening (List.length_pos_iff.1 counted)
  cases opens with
  | completed single => exact (base (by omega)).select buffer 0
  | extended choice longer =>
      have offered := base (by omega)
      exact ⟨offered.offers, offered.known, offered.boxed_eq⟩
  | selected choice hurried => exact (base (by omega)).select buffer 0
  | ambiguous choice patient => exact base (by omega)

/-- A press keeps a session in order, whether it moves the selection or opens another session. -/
theorem Offers.press {completion : Completion} (offers : completion.Offers) (buffer : LineBuffer)
    (source : Source) (next : Nat → Option Nat → Nat) :
    (completion.press buffer source next).1.Offers := by
  rcases completion.press_cases buffer source next with ⟨session, active, _, moved⟩ | ⟨_, anew⟩
  · rw [moved]
    intro pressed held
    obtain rfl := Option.some.inj held
    exact (offers session active).select buffer _
  · rw [anew]
    rcases completion.activate_cases buffer source with ⟨_, nothing⟩ | ⟨opened, _, opens, answer⟩
    · rw [nothing]
      exact offers_of_idle rfl
    · rw [answer]
      intro session held
      obtain rfl := Option.some.inj held
      exact opens.offered

end Completion

namespace Editor

/-- The editor with its line as it stands and no session. -/
def withoutSession (editor : Editor) : Editor :=
  { editor with completion := editor.completion.reset }

theorem withoutSession_of_idle {editor : Editor} (idle : editor.completion.session? = none) :
    editor.withoutSession = editor := by
  rw [withoutSession, Completion.reset_of_idle idle]

/-- An action that does not press the tab key keeps the session or ends it. -/
theorem offers_handle {editor : Editor} (offers : editor.completion.Offers) (source : Source)
    (action : Action) : (editor.handle source action).1.completion.Offers := by
  have handles := editor.handles source action
  generalize (editor.handle source action).1 = after at handles
  cases handles with
  | line => exact offers
  | kill => exact offers
  | yank => exact offers
  | press direction => exact offers.press editor.buffer source direction.next
  | escape => exact Completion.offers_of_idle rfl
  | accept => exact Completion.offers_of_idle rfl
  | submit => exact Completion.offers_of_idle rfl
  | interrupt => exact Completion.offers_of_idle rfl
  | clearScreen => exact offers
  | searchStart => exact Completion.offers_of_idle rfl
  | search => exact offers

theorem offers_apply {editor : Editor} (offers : editor.completion.Offers) (source : Source)
    (event : Event) : (editor.apply source event).1.completion.Offers := by
  cases event with
  | key key =>
      simp only [apply]
      split
      · exact offers
      next action _ =>
        have prepared : (editor.prepare action).completion.Offers := by
          simp only [prepare]
          split
          · exact offers
          · exact Completion.offers_of_idle rfl
        exact offers_handle prepared source action
  | paste text =>
      simp only [apply, paste]
      split
      · exact offers
      · exact Completion.offers_of_idle rfl
  | resize size => exact offers

/-- The session of a reachable editor is in order. -/
theorem Reachable.offers {editor : Editor} (reachable : editor.Reachable) :
    editor.completion.Offers := by
  induction reachable with
  | started => exact Completion.offers_of_idle rfl
  | setHistory _ _ inductionHypothesis => exact inductionHypothesis
  | pushHistory _ _ inductionHypothesis => exact inductionHypothesis
  | apply _ source event inductionHypothesis => exact offers_apply inductionHypothesis source event

end Editor

end Promptline
