/-
This file says what the first press of the tab key keeps in a session. With word lists alone nothing
that was typed gets lost.
-/

import Promptline.Proofs.Completion.Typed
import Promptline.Proofs.Spec.WordList
import Promptline.Session.Basic

namespace Promptline.Session

open Completion CompletionSession

/-- The commands of the host are candidates in the command only. -/
theorem continues_of_mem_commandCandidates {line : Text} {cursor : Nat} {candidate : Candidate}
    (answered : candidate ∈ commandCandidates line cursor) :
    (Context.ofLine line cursor).Continues candidate.value := by
  simp only [commandCandidates] at answered
  split at answered
  next within =>
    obtain ⟨command, matched, rfl⟩ := List.mem_map.1 answered
    exact Context.continues_of_inCommand within (List.mem_filter.1 matched).2
  · exact absurd answered List.not_mem_nil

theorem continues_of_mem_candidates {session : Session}
    (listed : ∀ spec ∈ session.registry.specs, spec.kind = .wordList) {line : Text} {cursor : Nat}
    {candidate : Candidate} (answered : candidate ∈ session.source.candidates line cursor) :
    (Context.ofLine line cursor).Continues candidate.value := by
  obtain ⟨source, asked, answered⟩ := Source.exists_source_of_mem_chain answered
  rcases List.mem_cons.1 asked with rfl | asked
  · exact Registry.continues_of_mem_candidates listed answered
  · obtain rfl := List.mem_singleton.1 asked
    exact continues_of_mem_commandCandidates answered

/-- The span of a new session starts at the token, since there is no phrase to find. -/
theorem start_opening {session : Session}
    (listed : ∀ spec ∈ session.registry.specs, spec.kind = .wordList) {buffer : LineBuffer}
    (plain : ∀ sigil ∈ session.sigils, sigil ≠ [] → ¬ sigil <+: buffer.shown) :
    (opening buffer session.source).start = buffer.shown.tokenStart buffer.cursor := by
  have partway : session.source.takesWholeLine buffer.shown = false := by
    refine Source.takesWholeLine_eq_false_iff.2 fun sigil opens => plain sigil ?_
    simpa [source, Source.chain, Registry.source, Source.ofCandidates] using opens
  have alone : phraseStart? buffer.shown (buffer.shown.tokenStart buffer.cursor) buffer.cursor
      (session.source.candidates buffer.shown buffer.cursor) = none := by
    -- In the command only blanks stand before the token, and behind it no candidate has a space.
    cases within : (Context.ofLine buffer.shown buffer.cursor).inCommand with
    | true => exact phraseStart?_of_alone (Context.precedingWordStart?_of_inCommand within) _ _
    | false =>
        refine phraseStart?_of_not_mem (fun candidate answered => ?_) _ _ _
        exact (continues_of_mem_candidates listed answered).joined within
  rw [opening, spanStart_of_not_takesWholeLine partway, alone, Option.getD_none]

/-- The first press of the tab key leaves the line alone or puts text between the cursor and the end
of the token, since the word that the candidates go on from is the token up to the cursor. -/
theorem shown_tab (session : Session)
    (listed : ∀ spec ∈ session.registry.specs, spec.kind = .wordList) {buffer : LineBuffer}
    (inside : buffer.cursor ≤ buffer.length) (unlimited : buffer.limit? = none)
    (plain : ∀ sigil ∈ session.sigils, sigil ≠ [] → ¬ sigil <+: buffer.shown)
    {completion : Completion} (inactive : completion.isActive = false) :
    let line := buffer.shown
    let pressed := (completion.tab buffer session.source).2.1
    (pressed = buffer ∨ ∃ added, pressed.shown =
        line.take buffer.cursor ++ added ++ line.drop (line.tokenEnd buffer.cursor)) ∧
      ∀ text offset,
        (Context.ofLine text offset).word = text.slice (text.tokenStart offset) offset := by
  refine ⟨?_, Context.word_ofLine⟩
  have start := start_opening listed plain
  have word : typed buffer (opening buffer session.source) =
      (Context.ofLine buffer.shown buffer.cursor).word := by
    rw [typed, start, Nat.max_eq_left (Text.tokenStart_le _ _), Context.word_ofLine]
  have anew : completion.tab buffer session.source =
      completion.activate buffer session.source := by
    simp only [tab, press, session?_of_inactive inactive]
  rw [anew]
  rcases completion.activate_cases buffer session.source with
    ⟨_, nothing⟩ | ⟨opened, outcome, opens, answer⟩
  · rw [nothing]
    exact .inl rfl
  · rw [answer]
    refine opens.keepsTyped inside unlimited fun candidate answered => ?_
    rw [word]
    exact (continues_of_mem_candidates listed answered).starts

/-- In the middle of a token the rest of it gives way to the candidate. -/
theorem shown_tab_inside_token :
    let session : Session := ⟨⟨[⟨Text.of "git", .wordList, Text.of "push pull", []⟩]⟩,
      ⟨fun _ _ => none, none⟩, [Text.of ":"]⟩
    let buffer := ((LineBuffer.empty none).setDraft (Text.of " git pusx -f")).setCursor 8
    let pressed := ((idle true).tab buffer session.source).2.1
    (∀ spec ∈ session.registry.specs, spec.kind = .wordList) ∧ buffer.cursor ≤ buffer.length ∧
      buffer.limit? = none ∧ (∀ sigil ∈ session.sigils, sigil ≠ [] → ¬ sigil <+: buffer.shown) ∧
      pressed.shown = Text.of " git push -f" ∧
      ∃ added, pressed.shown = buffer.shown.take buffer.cursor ++ added ++
        buffer.shown.drop (buffer.shown.tokenEnd buffer.cursor) := by
  intro session buffer pressed
  have listed : ∀ spec ∈ session.registry.specs, spec.kind = .wordList := by decide
  have inside : buffer.cursor ≤ buffer.length := by decide
  have plain : ∀ sigil ∈ session.sigils, sigil ≠ [] → ¬ sigil <+: buffer.shown := by decide
  have changed : pressed.shown = Text.of " git push -f" := by decide
  have inactive : (idle true).isActive = false := rfl
  refine ⟨listed, inside, rfl, plain, changed, ?_⟩
  refine (shown_tab session listed inside rfl plain inactive).1.resolve_left fun same => ?_
  have kept : pressed.shown = buffer.shown := congrArg LineBuffer.shown same
  rw [changed] at kept
  exact absurd kept (by decide)

end Promptline.Session
