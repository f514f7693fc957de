/-
This file shows that the tab key reaches every candidate. Enough presses put any one of them into
the line as it is, if the line has no limit.
-/

import Promptline.Proofs.Completion.Cycle

namespace Promptline

namespace TabDirection

theorem turn_forward (count : Nat) : turn (List.replicate count forward) = count := by
  simp [turn, step]

/-- Steps forward reach every index, from the first one or from no selection. -/
theorem exists_walk_forward {count index : Nat} (inside : index < count)
    {selected? : Option Nat} (begun : selected? = none ∨ selected? = some 0) :
    ∃ steps, walk count selected? (List.replicate steps forward) = some index := by
  have first : 0 < count := Nat.zero_lt_of_lt inside
  have around : walk count (some 0) (List.replicate index forward) = some index := by
    obtain ⟨last, walked, _, sum⟩ := walk_selected first (List.replicate index forward)
    rw [turn_forward, Nat.cast_zero, Int.zero_add, Int.emod_eq_of_lt (by omega) (by omega)] at sum
    rw [walked, Int.ofNat.inj sum]
  rcases begun with rfl | rfl
  · exact ⟨index + 1, around⟩
  · exact ⟨index, around⟩

end TabDirection

namespace LineBuffer

/-- The text stands somewhere in the draft. -/
def Holds (line : LineBuffer) (text : Text) : Prop := ∃ head tail, line.draft = head ++ text ++ tail

end LineBuffer

/-- In a line without a limit a selected candidate stands whole. -/
theorem CompletionSession.Spans.holds_select {session : CompletionSession} {buffer : LineBuffer}
    {head middle tail : Text} (spans : session.Spans buffer head middle tail)
    (unlimited : buffer.limit? = none) {index : Nat} {candidate : Candidate}
    (found : session.candidates[index]? = some candidate) :
    (session.select buffer index).2.Holds candidate.value := by
  have shown := (spans.put candidate.value).1.shown_eq
  rw [roomBetween, unlimited, Option.map_none, LineBuffer.cut] at shown
  rw [select_eq found]
  have current : (session.put buffer candidate.value).2.selected = 0 := rfl
  rw [LineBuffer.shown_eq_draft current] at shown
  exact ⟨head, tail, shown⟩

namespace Completion

theorem Opens.candidates_eq {eager : Bool} {buffer : LineBuffer} {source : Source}
    {opened : CompletionSession × LineBuffer} {outcome : TabOutcome}
    (opens : Opens eager buffer source opened outcome) :
    opened.1.candidates = source.candidates buffer.shown buffer.cursor := by
  cases opens with
  | completed => exact CompletionSession.candidates_place _ _ _
  | extended => rfl
  | selected => exact CompletionSession.candidates_place _ _ _
  | ambiguous => rfl

/-- Presses in a session with a choice reach each of its candidates. -/
theorem Rests.exists_presses {buffer line : LineBuffer} {source : Source} {outcome : TabOutcome}
    {opened : CompletionSession × LineBuffer} {base : CompletionSession} {selected? : Option Nat}
    (rests : Rests buffer source outcome opened base line selected?) (eager : Bool)
    (unlimited : buffer.limit? = none) {candidate : Candidate}
    (listed : candidate ∈ opened.1.candidates) :
    ∃ presses, (pressAll ⟨some opened.1, eager⟩ opened.2
      (List.replicate presses (.forward, source))).2.Holds candidate.value := by
  rw [rests.candidates_eq] at listed
  obtain ⟨index, found⟩ := List.mem_iff_getElem?.1 listed
  obtain ⟨inside, _⟩ := List.getElem?_eq_some_iff.1 found
  have begun := rests.begun.imp And.left And.left
  obtain ⟨steps, walked⟩ := TabDirection.exists_walk_forward inside begun
  have last := rests.pressAll_eq eager (List.replicate steps (.forward, source))
  rw [List.map_replicate, walked] at last
  refine ⟨steps, ?_⟩
  rw [last]
  exact rests.spans.holds_select (rests.limit_eq.trans unlimited) found

/-- Enough presses of the tab key put any candidate into a line without a limit. -/
theorem exists_presses_of_candidate {completion : Completion}
    (idle : completion.session? = none) {buffer : LineBuffer}
    (inside : buffer.cursor ≤ buffer.length) (unlimited : buffer.limit? = none) {source : Source}
    {candidate : Candidate} (offered : candidate ∈ source.candidates buffer.shown buffer.cursor) :
    ∃ presses, (pressAll completion buffer (List.replicate presses (.forward, source))).2.Holds
      candidate.value := by
  have anew : completion.press buffer source TabDirection.forward.next =
      completion.activate buffer source := by
    simp only [press, idle]
  rcases completion.activate_cases buffer source with
    ⟨nothing, _⟩ | ⟨opened, outcome, opens, answer⟩
  · rw [nothing] at offered
    exact absurd offered List.not_mem_nil
  · have first (more : List (TabDirection × Source)) :
        pressAll completion buffer ((.forward, source) :: more) =
          pressAll ⟨some opened.1, completion.eager⟩ opened.2 more := by
      simp only [pressAll, anew, answer]
    rw [← opens.candidates_eq] at offered
    by_cases choice : 1 < opened.1.candidates.length
    · obtain ⟨base, line, selected?, rests⟩ := opens.rests choice inside
      obtain ⟨presses, holds⟩ := rests.exists_presses completion.eager unlimited offered
      refine ⟨presses + 1, ?_⟩
      rw [List.replicate_succ, first]
      exact holds
    · refine ⟨1, ?_⟩
      rw [List.replicate_one, first]
      cases opens with
      | completed single =>
          rw [CompletionSession.candidates_place] at offered
          obtain ⟨index, found⟩ := List.mem_iff_getElem?.1 offered
          obtain ⟨known, _⟩ := List.getElem?_eq_some_iff.1 found
          obtain rfl : index = 0 := by omega
          exact (opening_spans inside source).holds_select unlimited found
      | extended several => exact absurd several choice
      | selected several =>
          rw [CompletionSession.candidates_place] at choice
          exact absurd several choice
      | ambiguous several => exact absurd several choice

end Completion

end Promptline
