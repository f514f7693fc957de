/-
This file says where a session of an eager completion has put its text. The text fills the span of
the session in the draft, up to the cursor, and it is a part of what the session offers.
-/

import Promptline.Proofs.Completion.Cycle

namespace Promptline

namespace CompletionSession

/-- The text that the span holds as far as it fits. -/
def promised (session : CompletionSession) : Text :=
  match session.selected?.bind fun index => session.candidates[index]? with
  | some candidate => candidate.value
  | none => Text.commonStart (session.candidates.map Candidate.value)

/-- The span of the session ends at the cursor in the draft and holds a part of what is offered. -/
structure Placed (session : CompletionSession) (line : LineBuffer) : Prop where
  drafted : line.selected = 0
  ordered : session.start ≤ session.stop
  atCursor : session.stop = line.cursor
  inside : line.cursor ≤ line.draft.length
  filled : line.draft.slice session.start session.stop <+: session.promised

/-- A text that is put into the span stands in the draft in front of the cursor. -/
theorem put_fills {session : CompletionSession} {line : LineBuffer}
    (ordered : session.start ≤ session.stop) (inside : session.stop ≤ line.length) (text : Text) :
    let filled := (session.put line text).1
    let drafted := (session.put line text).2
    drafted.selected = 0 ∧ filled.start ≤ filled.stop ∧ filled.stop = drafted.cursor ∧
      drafted.cursor ≤ drafted.draft.length ∧
      drafted.draft.slice filled.start filled.stop <+: text := by
  obtain ⟨spans, atStop⟩ := (spans_of_inside ordered inside).put text
  obtain ⟨ordered', within⟩ := spans.inside
  refine ⟨rfl, ordered', atStop.symm, ?_, ?_⟩
  · rw [atStop]
    exact within
  · have filled := spans.slice_eq
    change Text.slice (session.put line text).2.draft _ _ = _ at filled
    rw [filled]
    exact LineBuffer.cut_isPrefix _ text

/-- A selected candidate is placed wherever the session had its span. -/
theorem placed_select {session : CompletionSession} {line : LineBuffer} {index : Nat}
    (ordered : session.start ≤ session.stop) (inside : session.stop ≤ line.length)
    (listed : index < session.candidates.length) :
    (session.select line index).1.Placed (session.select line index).2 := by
  have found : session.candidates[index]? = some session.candidates[index] :=
    List.getElem?_eq_getElem listed
  obtain ⟨drafted, ordered', atCursor, inside', filled⟩ :=
    put_fills ordered inside session.candidates[index].value
  have promised : promised { (session.put line session.candidates[index].value).1 with
      selected? := some index } = session.candidates[index].value := by
    simp only [CompletionSession.promised, Option.bind_some, put, found]
  rw [select_eq found]
  refine ⟨drafted, ordered', atCursor, inside', ?_⟩
  rw [promised]
  exact filled

/-- The common start is placed before a candidate is selected. -/
theorem placed_put_commonStart {session : CompletionSession} {line : LineBuffer}
    (ordered : session.start ≤ session.stop) (inside : session.stop ≤ line.length)
    (undecided : session.selected? = none) :
    let shared := Text.commonStart (session.candidates.map Candidate.value)
    (session.put line shared).1.Placed (session.put line shared).2 := by
  intro shared
  obtain ⟨drafted, ordered', atCursor, inside', filled⟩ := put_fills ordered inside shared
  have promised : promised (session.put line shared).1 = shared := by
    simp only [CompletionSession.promised, put, undecided, Option.bind_none]
    rfl
  refine ⟨drafted, ordered', atCursor, inside', ?_⟩
  rw [promised]
  exact filled

end CompletionSession

namespace Completion

/-- A completion without a session has nothing to place. -/
def Places (completion : Completion) (line : LineBuffer) : Prop :=
  ∀ session, completion.session? = some session → session.Placed line

theorem places_of_idle {completion : Completion} (idle : completion.session? = none)
    (line : LineBuffer) : completion.Places line := by
  intro session held
  simp [idle] at held

/-- An eager press that opens a session places its text. -/
theorem Opens.placed {buffer : LineBuffer} {source : Source}
    {opened : CompletionSession × LineBuffer} {outcome : TabOutcome}
    (opens : Opens true buffer source opened outcome) (inside : buffer.cursor ≤ buffer.length) :
    opened.1.Placed opened.2 := by
  obtain ⟨before, after, within⟩ := opening_around_cursor inside source
  have ordered := Nat.le_trans before after
  cases opens with
  | completed single => exact CompletionSession.placed_select ordered within (by omega)
  | extended choice longer =>
      rw [eq_commonStart_of_extension? longer]
      exact CompletionSession.placed_put_commonStart ordered within rfl
  | selected choice hurried => exact CompletionSession.placed_select ordered within (by omega)
  | ambiguous choice patient => exact absurd patient (by decide)

/-- A press of an eager completion places the text of its session. -/
theorem Places.press {completion : Completion} {line : LineBuffer}
    (places : completion.Places line) (hurried : completion.eager = true)
    (inside : line.cursor ≤ line.length) (source : Source) (direction : TabDirection) :
    let pressed := completion.press line source direction.next
    pressed.1.Places pressed.2.1 := by
  dsimp only
  rcases completion.press_cases line source direction.next with
    ⟨session, active, choice, moved⟩ | ⟨_, anew⟩
  · rw [moved]
    intro pressed held
    obtain rfl := Option.some.inj held
    have placed := places session active
    have within : session.stop ≤ line.length := by
      rw [placed.atCursor]
      exact inside
    exact CompletionSession.placed_select placed.ordered within
      (direction.next_lt (Nat.zero_lt_of_lt choice) session.selected?)
  · rw [anew]
    rcases completion.activate_cases line source with ⟨_, nothing⟩ | ⟨opened, _, opens, answer⟩
    · rw [nothing]
      exact places_of_idle rfl line
    · rw [answer]
      intro session held
      obtain rfl := Option.some.inj held
      rw [hurried] at opens
      exact opens.placed inside

end Completion

end Promptline
