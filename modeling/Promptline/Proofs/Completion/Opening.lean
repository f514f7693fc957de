/-
This file says what the first press of the tab key can do. It finds nothing, or it opens a session
whose span is around the cursor. A token is extended to the longest text that all candidates start
with, and only once.
-/

import Promptline.Proofs.Completion.Span
import Promptline.Proofs.LineBuffer.Reachable

namespace Promptline.Completion

open CompletionSession

theorem session?_of_inactive {completion : Completion} (inactive : completion.isActive = false) :
    completion.session? = none := by
  rwa [isActive, Option.isSome_eq_false_iff, Option.isNone_iff_eq_none] at inactive

/-- The session that a press opens, before it touches the line. -/
def opening (buffer : LineBuffer) (source : Source) : CompletionSession where
  candidates := source.candidates buffer.shown buffer.cursor
  selected? := none
  start := spanStart source buffer.shown buffer.cursor
    (source.candidates buffer.shown buffer.cursor)
  stop := buffer.shown.tokenEnd buffer.cursor
  line := buffer.shown
  cursor := buffer.cursor
  boxed := (source.candidates buffer.shown buffer.cursor).length ≠ 1
  help := source.help buffer.shown buffer.cursor

/-- The text that counts as typed is the span up to the cursor. -/
def typed (buffer : LineBuffer) (session : CompletionSession) : Text :=
  buffer.shown.slice session.start (max buffer.cursor session.start)

/-- The text that a press extends the line to is the common start of all candidates. -/
theorem eq_commonStart_of_extension? {typed shared : Text} {candidates : List Candidate}
    (longer : extension? typed candidates = some shared) :
    shared = Text.commonStart (candidates.map Candidate.value) := by
  simp only [extension?] at longer
  split at longer
  · exact (Option.some.inj longer).symm
  · simp at longer

theorem extension?_eq_some_iff (typed : Text) (candidates : List Candidate) :
    let shared := Text.commonStart (candidates.map Candidate.value)
    extension? typed candidates = some shared ↔ typed.length < shared.length := by
  intro shared
  rw [extension?]
  split
  next longer => exact iff_of_true rfl longer
  next short => exact iff_of_false nofun short

/-- What a token has been extended to is as long as the common start already. -/
theorem extension?_of_extended {typed extended : Text} {candidates : List Candidate}
    (longer : extension? typed candidates = some extended) :
    extension? extended candidates = none := by
  rw [eq_commonStart_of_extension? longer, extension?, if_neg (Nat.lt_irrefl _)]

/-- The common start is the greatest of all texts that every candidate starts with, in whatever
order and however often the candidates are offered. A token is extended to it if it is longer than
what was typed, and then no further. -/
theorem extension?_greatest {candidates : List Candidate} (offered : candidates ≠ []) :
    let shared := Text.commonStart (candidates.map Candidate.value)
    (∀ candidate ∈ candidates, shared <+: candidate.value) ∧
      (∀ head : Text, (∀ candidate ∈ candidates, head <+: candidate.value) → head <+: shared) ∧
      (∀ others : List Candidate,
        (∀ value, value ∈ others.map Candidate.value ↔ value ∈ candidates.map Candidate.value) →
          Text.commonStart (others.map Candidate.value) = shared) ∧
      ∀ typed : Text,
        (extension? typed candidates = some shared ↔ typed.length < shared.length) ∧
          ∀ extended, extension? typed candidates = some extended →
            extended = shared ∧ extension? extended candidates = none := by
  intro shared
  have filled : candidates.map Candidate.value ≠ [] := by simpa using offered
  have greatest (head : Text) :
      head <+: shared ↔ ∀ candidate ∈ candidates, head <+: candidate.value := by
    rw [Text.isPrefix_commonStart_iff filled, List.forall_mem_map]
  refine ⟨(greatest shared).1 List.prefix_rfl, fun head => (greatest head).2, ?_, fun typed => ?_⟩
  · intro others same
    exact Text.commonStart_congr same
  · exact ⟨extension?_eq_some_iff typed candidates, fun extended longer =>
      ⟨eq_commonStart_of_extension? longer, extension?_of_extended longer⟩⟩

/-- Two candidates extend one typed character to the three that they share. -/
theorem extension?_greatest_of_two :
    let candidates := [Candidate.ofValue (Text.of "checkout"), .ofValue (Text.of "cherry-pick")]
    candidates ≠ [] ∧ extension? (Text.of "c") candidates = some (Text.of "che") ∧
      extension? (Text.of "che") candidates = none := by
  intro candidates
  have offered : candidates ≠ [] := List.cons_ne_nil _ _
  have longer : extension? (Text.of "c") candidates = some (Text.of "che") := by decide +kernel
  obtain ⟨-, -, -, extends_once⟩ := extension?_greatest offered
  exact ⟨offered, longer, ((extends_once (Text.of "c")).2 _ longer).2⟩

/-- These are the ways in which a press opens a session. -/
inductive Opens (eager : Bool) (buffer : LineBuffer) (source : Source) :
    CompletionSession × LineBuffer → TabOutcome → Prop where
  | completed (single : (opening buffer source).candidates.length = 1) :
      Opens eager buffer source ((opening buffer source).place buffer (some 0)) .completed
  | extended {shared : Text} (choice : 1 < (opening buffer source).candidates.length)
      (longer : extension? (typed buffer (opening buffer source))
        (opening buffer source).candidates = some shared) :
      Opens eager buffer source ((opening buffer source).put buffer shared) .extended
  | selected (choice : 1 < (opening buffer source).candidates.length) (hurried : eager = true) :
      Opens eager buffer source ((opening buffer source).place buffer (some 0)) (.selected 0)
  | ambiguous (choice : 1 < (opening buffer source).candidates.length)
      (patient : eager = false) :
      Opens eager buffer source (opening buffer source, buffer) .ambiguous

/-- A press without a session decides by the number of candidates and by their common start. -/
theorem activate_eq (completion : Completion) (buffer : LineBuffer) (source : Source) :
    completion.activate buffer source =
      let session := opening buffer source
      let held (opened : CompletionSession × LineBuffer) (outcome : TabOutcome) :=
        ({ completion with session? := some opened.1 }, opened.2, outcome)
      if session.candidates = [] then (completion.reset, buffer, .noCandidates)
      else if session.candidates.length = 1 then held (session.place buffer (some 0)) .completed
      else match extension? (typed buffer session) session.candidates with
        | some shared => held (session.put buffer shared) .extended
        | none =>
            if completion.eager then held (session.place buffer (some 0)) (.selected 0)
            else held (session, buffer) .ambiguous := rfl

/-- A press without a session opens one if the source has an answer. -/
theorem activate_cases (completion : Completion) (buffer : LineBuffer) (source : Source) :
    (source.candidates buffer.shown buffer.cursor = [] ∧
        completion.activate buffer source = (completion.reset, buffer, .noCandidates)) ∨
      ∃ opened outcome, Opens completion.eager buffer source opened outcome ∧
        completion.activate buffer source =
          ({ completion with session? := some opened.1 }, opened.2, outcome) := by
  rw [activate_eq]
  dsimp only
  split
  next nothing => exact .inl ⟨nothing, rfl⟩
  next answered =>
    have offered : 0 < (opening buffer source).candidates.length := List.length_pos_iff.2 answered
    right
    split
    next single => exact ⟨_, _, .completed single, rfl⟩
    next several =>
      have choice : 1 < (opening buffer source).candidates.length := by omega
      split
      next shared longer => exact ⟨_, _, .extended choice longer, rfl⟩
      next =>
        split
        next hurried => exact ⟨_, _, .selected choice hurried, rfl⟩
        next patient => exact ⟨_, _, .ambiguous choice (by simpa using patient), rfl⟩

/-- A press moves the selection where there is a choice, and otherwise starts anew. -/
theorem press_cases (completion : Completion) (buffer : LineBuffer) (source : Source)
    (next : Nat → Option Nat → Nat) :
    (∃ session, completion.session? = some session ∧ 1 < session.candidates.length ∧
        let index := next session.candidates.length session.selected?
        completion.press buffer source next =
          ({ completion with session? := some (session.select buffer index).1 },
            (session.select buffer index).2, .selected index)) ∨
      (∀ session, completion.session? = some session → session.candidates.length ≤ 1) ∧
        completion.press buffer source next = completion.activate buffer source := by
  cases held : completion.session? with
  | none =>
      refine .inr ⟨fun session none => ?_, ?_⟩
      · simp at none
      · simp only [press, held]
  | some session =>
      by_cases choice : 1 < session.candidates.length
      · refine .inl ⟨session, rfl, choice, ?_⟩
        simp only [press, held, choice, if_true]
      · refine .inr ⟨fun other same => ?_, ?_⟩
        · obtain rfl := Option.some.inj same
          omega
        · simp only [press, held, choice, if_false]

/-- The span of a new session starts at the cursor or before it. -/
theorem spanStart_le_cursor (source : Source) (text : Text) (cursor : Nat)
    (candidates : List Candidate) : spanStart source text cursor candidates ≤ cursor := by
  have token := text.tokenStart_le cursor
  simp only [spanStart]
  split
  · exact Nat.zero_le cursor
  · cases wider : phraseStart? text (text.tokenStart cursor) cursor candidates with
    | none => exact token
    | some start =>
        refine Nat.le_trans ?_ token
        simp only [phraseStart?] at wider
        split at wider
        · obtain ⟨found, before, rest⟩ := Option.bind_eq_some_iff.1 wider
          obtain ⟨first, _, kept⟩ := Option.bind_eq_some_iff.1 rest
          split at kept
          · obtain rfl := Option.some.inj kept
            exact Text.precedingWordStart?_le before
          · simp at kept
        · simp at wider

/-- The span of a new session is around the cursor. -/
theorem opening_around_cursor {buffer : LineBuffer} (inside : buffer.cursor ≤ buffer.length)
    (source : Source) :
    (opening buffer source).start ≤ buffer.cursor ∧
      buffer.cursor ≤ (opening buffer source).stop ∧
      (opening buffer source).stop ≤ buffer.length :=
  ⟨spanStart_le_cursor _ _ _ _, Text.le_tokenEnd inside, Text.tokenEnd_le_length _ _⟩

/-- A new session cuts the line at the ends of its span. -/
theorem opening_spans {buffer : LineBuffer} (inside : buffer.cursor ≤ buffer.length)
    (source : Source) :
    let session := opening buffer source
    session.Spans buffer (buffer.shown.take session.start)
      (buffer.shown.slice session.start session.stop) (buffer.shown.drop session.stop) := by
  obtain ⟨before, after, within⟩ := opening_around_cursor inside source
  exact CompletionSession.spans_of_inside (Nat.le_trans before after) within

end Promptline.Completion
