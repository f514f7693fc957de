/-
This file says what a source of word lists answers. The completed word is the token up to the
cursor, and every candidate goes on from it.
-/

import Promptline.Proofs.Text.Pieces
import Promptline.Spec.Evaluation

namespace Promptline

namespace Context

/-- The last word of a context is the one that the cursor is in or behind. -/
theorem words_ofLine {line front word : Text} {cursor : Nat}
    (cut : line.take cursor = front ++ word) (apart : front.endsBlank = true)
    (solid : word.IsWord) : (ofLine line cursor).words = front.words ++ [word] := by
  simp only [ofLine, cut]
  -- An empty last word is the one that is added behind white space.
  by_cases filled : word = []
  · rw [filled, List.append_nil, if_pos apart]
  · rw [if_neg (by simp [Text.endsBlank_append_word front solid filled]), List.append_nil,
      Text.words_append_word apart solid filled]

/-- The completed word is the token up to the cursor. -/
theorem word_ofLine (line : Text) (cursor : Nat) :
    (ofLine line cursor).word = line.slice (line.tokenStart cursor) cursor := by
  obtain ⟨front, last, cut, apart, solid⟩ := Text.exists_last_word (line.take cursor)
  rw [word, words_ofLine cut apart solid, List.getLastD_concat,
    Text.tokenStart_of_take cut apart solid, Text.slice, cut, List.drop_left]

/-- In the command there is no word in front of the token. -/
theorem precedingWordStart?_of_inCommand {line : Text} {cursor : Nat}
    (within : (ofLine line cursor).inCommand = true) :
    line.precedingWordStart? (line.tokenStart cursor) = none := by
  obtain ⟨front, word, cut, apart, solid⟩ := Text.exists_last_word (line.take cursor)
  rw [inCommand, words_ofLine cut apart solid, List.length_append, decide_eq_true_eq] at within
  have blank : front.IsGap := Text.isGap_of_words_eq_nil (List.length_eq_zero_iff.1 (by
    simpa using within))
  have start : line.take (line.tokenStart cursor) = [] ++ front := by
    have before := line.tokenStart_le cursor
    rw [Text.tokenStart_of_take cut apart solid] at before ⊢
    rw [← Nat.min_eq_left before, ← List.take_take, cut, List.take_left, List.nil_append]
  rw [Text.precedingWordStart?_of_gap start blank (.inl rfl), if_pos (.inr rfl)]

end Context

/-- A text goes on from the completed word and, behind the command, holds no space. -/
structure Context.Continues (context : Context) (text : Text) : Prop where
  starts : context.word <+: text
  joined : context.inCommand = false → ' ' ∉ text

theorem Context.continues_of_inCommand {context : Context} (within : context.inCommand = true)
    {text : Text} (starts : text.startsWith context.word = true) : context.Continues text := by
  refine ⟨Text.startsWith_iff.1 starts, fun behind => ?_⟩
  rw [within] at behind
  exact absurd behind.symm Bool.false_ne_true

/-- The words of a list have no spaces, and only those count that go on from the completed word. -/
theorem Spec.continues_of_mem_evaluate {spec : Spec} (listed : spec.kind = .wordList)
    {host : CompletionHost} {context : Context} {filter : ReplyFilter} {candidate : Candidate}
    (answered : candidate ∈ spec.evaluate host context filter) :
    context.Continues candidate.value := by
  simp only [evaluate, listed] at answered
  obtain ⟨word, matched, rfl⟩ := List.mem_map.1 answered
  obtain ⟨offered, starts⟩ := List.mem_filter.1 matched
  refine ⟨Text.startsWith_iff.1 starts, fun _ held => ?_⟩
  exact absurd (Text.isWord_of_mem_words offered ' ' held) (by decide)

theorem Registry.continues_of_mem_candidates {registry : Registry}
    (listed : ∀ spec ∈ registry.specs, spec.kind = .wordList) {host : CompletionHost}
    {sigils : List Text} {line : Text} {cursor : Nat} {candidate : Candidate}
    (answered : candidate ∈ (registry.source host sigils).candidates line cursor) :
    (Context.ofLine line cursor).Continues candidate.value := by
  simp only [source] at answered
  split at answered
  next within =>
    obtain ⟨command, matched, rfl⟩ := List.mem_map.1 answered
    exact Context.continues_of_inCommand within (List.mem_filter.1 matched).2
  · split at answered
    · exact absurd answered List.not_mem_nil
    next spec found =>
      exact Spec.continues_of_mem_evaluate (listed spec (List.mem_of_find?_eq_some found)) answered

end Promptline
