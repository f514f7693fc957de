/-
This file says what the first press of the tab key keeps. When every candidate goes on from what was
typed, the line up to the cursor and the line behind the token stay.
-/

import Promptline.Proofs.Completion.Opening

namespace Promptline.Completion

open CompletionSession

/-- What was typed ends at the cursor. -/
theorem take_append_typed {buffer : LineBuffer} (inside : buffer.cursor ≤ buffer.length)
    (source : Source) :
    buffer.shown.take (opening buffer source).start ++ typed buffer (opening buffer source) =
      buffer.shown.take buffer.cursor := by
  obtain ⟨before, _, _⟩ := opening_around_cursor inside source
  rw [typed, Nat.max_eq_left before, Text.take_append_slice _ before]

/-- The line up to the cursor and the line behind the token at the cursor are still there. -/
def KeepsTyped (before after : LineBuffer) : Prop :=
  ∃ added, after.shown = before.shown.take before.cursor ++ added ++
    before.shown.drop (before.shown.tokenEnd before.cursor)

/-- A text that goes on from what was typed takes the place of the token. -/
theorem keepsTyped_put {buffer : LineBuffer} (inside : buffer.cursor ≤ buffer.length)
    (unlimited : buffer.limit? = none) {source : Source} {text : Text}
    (goesOn : typed buffer (opening buffer source) <+: text) :
    KeepsTyped buffer ((opening buffer source).put buffer text).2 := by
  obtain ⟨added, rfl⟩ := goesOn
  obtain ⟨spans, _⟩ :=
    (opening_spans inside source).put (typed buffer (opening buffer source) ++ added)
  refine ⟨added, ?_⟩
  rw [spans.shown_eq, unlimited, ← take_append_typed inside source, List.append_assoc _ _ added]
  rfl

/-- If every candidate goes on from what was typed, nothing of that gets lost. -/
theorem Opens.keepsTyped {eager : Bool} {buffer : LineBuffer} {source : Source}
    {opened : CompletionSession × LineBuffer} {outcome : TabOutcome}
    (opens : Opens eager buffer source opened outcome) (inside : buffer.cursor ≤ buffer.length)
    (unlimited : buffer.limit? = none)
    (goesOn : ∀ candidate ∈ source.candidates buffer.shown buffer.cursor,
      typed buffer (opening buffer source) <+: candidate.value) :
    opened.2 = buffer ∨ KeepsTyped buffer opened.2 := by
  have first (offered : 0 < (opening buffer source).candidates.length) :
      KeepsTyped buffer ((opening buffer source).place buffer (some 0)).2 := by
    rw [place, select_eq (List.getElem?_eq_getElem offered)]
    exact keepsTyped_put inside unlimited (goesOn _ (List.getElem_mem offered))
  cases opens with
  | completed single => exact .inr (first (by omega))
  | extended choice longer =>
      rw [eq_commonStart_of_extension? longer]
      refine .inr (keepsTyped_put inside unlimited ((Text.isPrefix_commonStart_iff ?_).2 ?_))
      · exact mt List.map_eq_nil_iff.1 (List.ne_nil_of_length_pos (by omega))
      · exact List.forall_mem_map.2 goesOn
  | selected choice hurried => exact .inr (first (by omega))
  | ambiguous choice patient => exact .inl rfl

end Promptline.Completion
