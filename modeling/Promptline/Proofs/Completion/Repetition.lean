/-
This file follows a session with a single candidate through any run of presses. Such a session is
opened anew by every press, and the new span holds the whole candidate only if that is a word or
two words.
-/

import Promptline.Proofs.Completion.Cycle
import Promptline.Proofs.Text.Boundary

namespace Promptline

/-- The source has the same single answer to every question, and no sigils. -/
structure Source.Answers (source : Source) (candidate : Candidate) : Prop where
  plain : source.sigils = []
  single : ∀ line cursor, source.candidates line cursor = [candidate]

/-- A value that is found again as a whole is a word, or a word and then a second one, which may be
empty, with a space among the blanks between them. -/
inductive Settles : Text → Prop where
  | word {value : Text} (solid : value.IsWord) : Settles value
  | phrase {first gap last : Text} (begun : first.IsWord) (filled : first ≠ []) (blank : gap.IsGap)
      (spaced : ' ' ∈ gap) (solid : last.IsWord) : Settles (first ++ gap ++ last)

namespace CompletionSession

/-- Without sigils a span starts at a phrase or at the token. -/
theorem spanStart_of_plain {source : Source} (plain : source.sigils = []) (text : Text)
    (cursor : Nat) (candidates : List Candidate) :
    spanStart source text cursor candidates =
      (phraseStart? text (text.tokenStart cursor) cursor candidates).getD
        (text.tokenStart cursor) := by
  refine spanStart_of_not_takesWholeLine ?_ cursor candidates
  rw [Source.takesWholeLine, plain, List.any_nil]

/-- A single candidate takes the word before the token along if it starts with all of the phrase. -/
theorem phraseStart?_eq_some_iff {candidate : Candidate} {text : Text} {start cursor wider : Nat} :
    phraseStart? text start cursor [candidate] = some wider ↔
      ' ' ∈ candidate.value ∧ text.precedingWordStart? start = some wider ∧
        text.slice wider (max cursor wider) <+: candidate.value := by
  by_cases spaced : ' ' ∈ candidate.value
  · cases found : text.precedingWordStart? start with
    | none => simp [phraseStart?, found]
    | some other =>
        simp only [phraseStart?, List.any_cons, List.any_nil, List.contains_iff_mem, spaced,
          Bool.or_false, if_true, List.head?_cons, found, Option.bind_eq_bind, Option.bind_some,
          Option.ite_none_right_eq_some, Text.startsWith_iff, true_and, Option.some.injEq]
        constructor
        · rintro ⟨starts, rfl⟩
          exact ⟨rfl, starts⟩
        · rintro ⟨rfl, starts⟩
          exact ⟨starts, rfl⟩
  · simp [phraseStart?, spaced]

section Value

variable {source : Source} {candidate : Candidate} {head : Text}

/-- A word is found again. -/
theorem spanStart_word (plain : source.sigils = []) (apart : head.endsBlank = true)
    (solid : candidate.value.IsWord) (tail : Text) :
    spanStart source (head ++ candidate.value ++ tail) (head ++ candidate.value).length
        [candidate] =
      head.length := by
  have joined : ' ' ∉ candidate.value := fun member => by
    simpa [isBlank] using solid ' ' member
  rw [spanStart_of_plain plain, phraseStart?_of_not_mem (by simpa using joined),
    Option.getD_none]
  exact Text.tokenStart_word apart solid tail

/-- Leading blanks are not found again, as no phrase starts with a blank. -/
theorem spanStart_blanks (plain : source.sigils = []) {gap last : Text}
    (parts : candidate.value = gap ++ last) (blank : gap.IsGap) (wide : gap ≠ [])
    (solid : last.IsWord) (tail : Text) :
    spanStart source (head ++ candidate.value ++ tail) (head ++ candidate.value).length
        [candidate] =
      head.length + gap.length := by
  have whole : head ++ candidate.value = head ++ gap ++ last := by
    rw [parts, List.append_assoc]
  have token : (head ++ gap ++ last ++ tail).tokenStart (head ++ gap ++ last).length =
      (head ++ gap).length :=
    Text.tokenStart_word (Text.endsBlank_append_gap head blank wide) solid tail
  have alone : phraseStart? (head ++ gap ++ last ++ tail) (head ++ gap).length
      (head ++ gap ++ last).length [candidate] = none := by
    rw [Option.eq_none_iff_forall_ne_some]
    intro wider widened
    obtain ⟨_, found, starts⟩ := phraseStart?_eq_some_iff.1 widened
    have behind : (head ++ gap).length ≤ max (head ++ gap ++ last).length wider := by
      simp only [List.length_append]
      omega
    obtain ⟨c, rest, phrase, inked⟩ := Text.slice_of_precedingWordStart? found behind
    rw [phrase, parts] at starts
    cases gap with
    | nil => exact wide rfl
    | cons b gap =>
        obtain ⟨same, _⟩ := List.cons_prefix_cons.1 starts
        rw [same, blank b List.mem_cons_self] at inked
        exact Bool.false_ne_true inked.symm
  rw [whole, spanStart_of_plain plain, token, alone, Option.getD_none, List.length_append]

/-- A phrase is found again from its last gap on, or from the word before that gap. -/
theorem spanStart_phrase (plain : source.sigils = []) (apart : head.endsBlank = true)
    {front first gap last : Text} (parts : candidate.value = front ++ first ++ gap ++ last)
    (apart' : front.endsBlank = true) (begun : first.IsWord) (filled : first ≠ [])
    (blank : gap.IsGap) (wide : gap ≠ []) (solid : last.IsWord) (tail : Text) :
    spanStart source (head ++ candidate.value ++ tail) (head ++ candidate.value).length
        [candidate] =
      head.length + if ' ' ∈ candidate.value ∧ first ++ gap ++ last <+: candidate.value
        then front.length else (front ++ first ++ gap).length := by
  have whole : head ++ candidate.value = head ++ front ++ first ++ gap ++ last := by
    rw [parts]
    simp only [List.append_assoc]
  have token : (head ++ front ++ first ++ gap ++ last ++ tail).tokenStart
      (head ++ front ++ first ++ gap ++ last).length = (head ++ front ++ first ++ gap).length :=
    Text.tokenStart_word (Text.endsBlank_append_gap _ blank wide) solid tail
  have found : (head ++ front ++ first ++ gap ++ last ++ tail).precedingWordStart?
      (head ++ front ++ first ++ gap).length = some (head ++ front).length := by
    refine Text.precedingWordStart?_eq_some_iff.2 ⟨head ++ front, first, gap, ?_,
      Text.endsBlank_append apart apart', begun, filled, blank, wide, rfl⟩
    rw [List.append_assoc _ last tail, List.take_left]
  have phrase : (head ++ front ++ first ++ gap ++ last ++ tail).slice (head ++ front).length
      (max (head ++ front ++ first ++ gap ++ last).length (head ++ front).length) =
        first ++ gap ++ last := by
    rw [Nat.max_eq_left (by simp only [List.length_append]; omega), Text.slice, List.take_left]
    simp only [List.append_assoc]
    rw [← List.append_assoc head front, List.drop_left]
  have widened : phraseStart? (head ++ front ++ first ++ gap ++ last ++ tail)
      (head ++ front ++ first ++ gap).length (head ++ front ++ first ++ gap ++ last).length
      [candidate] =
        if ' ' ∈ candidate.value ∧ first ++ gap ++ last <+: candidate.value
          then some (head ++ front).length else none := by
    ext wider
    rw [phraseStart?_eq_some_iff, found, Option.some.injEq, Option.ite_none_right_eq_some,
      Option.some.injEq]
    constructor
    · rintro ⟨spaced, rfl, starts⟩
      rw [phrase] at starts
      exact ⟨⟨spaced, starts⟩, rfl⟩
    · rintro ⟨⟨spaced, starts⟩, rfl⟩
      rw [phrase]
      exact ⟨spaced, rfl, starts⟩
  rw [whole, spanStart_of_plain plain, token, widened]
  split
  · rw [Option.getD_some, List.length_append]
  · simp only [Option.getD_none, List.length_append]
    omega

end Value

/-- The offset in a value at which a span starts that is opened behind the value. -/
def restart (candidate : Candidate) : Nat :=
  spanStart (.ofCandidates fun _ _ => [candidate]) ([] ++ candidate.value ++ [])
    ([] ++ candidate.value).length [candidate]

theorem restart_le_length (candidate : Candidate) : restart candidate ≤ candidate.value.length :=
  Completion.spanStart_le_cursor _ _ _ _

theorem restart_word {candidate : Candidate} (solid : candidate.value.IsWord) :
    restart candidate = 0 := spanStart_word rfl rfl solid []

theorem restart_blanks {candidate : Candidate} {gap last : Text}
    (parts : candidate.value = gap ++ last) (blank : gap.IsGap) (wide : gap ≠ [])
    (solid : last.IsWord) : restart candidate = gap.length := by
  rw [restart, spanStart_blanks rfl parts blank wide solid, List.length_nil, Nat.zero_add]

theorem restart_phrase {candidate : Candidate} {front first gap last : Text}
    (parts : candidate.value = front ++ first ++ gap ++ last) (apart : front.endsBlank = true)
    (begun : first.IsWord) (filled : first ≠ []) (blank : gap.IsGap) (wide : gap ≠ [])
    (solid : last.IsWord) :
    restart candidate =
      if ' ' ∈ candidate.value ∧ first ++ gap ++ last <+: candidate.value
        then front.length else (front ++ first ++ gap).length := by
  rw [restart, spanStart_phrase rfl rfl parts apart begun filled blank wide solid, List.length_nil,
    Nat.zero_add]

/-- What stands around a value does not matter for the span. -/
theorem spanStart_eq_add_restart {source : Source} (plain : source.sigils = []) {head : Text}
    (apart : head.endsBlank = true) (candidate : Candidate) (tail : Text) :
    spanStart source (head ++ candidate.value ++ tail) (head ++ candidate.value).length
        [candidate] =
      head.length + restart candidate := by
  generalize parts : candidate.value = value
  have ending := Text.ending value
  cases ending with
  | word solid =>
      subst parts
      rw [spanStart_word plain apart solid, restart_word solid, Nat.add_zero]
  | blanks blank wide solid =>
      rw [← parts, spanStart_blanks plain parts blank wide solid,
        restart_blanks parts blank wide solid]
  | phrase apart' begun filled blank wide solid =>
      rw [← parts, spanStart_phrase plain apart parts apart' begun filled blank wide solid,
        restart_phrase parts apart' begun filled blank wide solid]

/-- The span holds the whole value again exactly if the value settles. -/
theorem restart_eq_zero_iff {candidate : Candidate} :
    restart candidate = 0 ↔ Settles candidate.value := by
  constructor
  · intro whole
    generalize parts : candidate.value = value
    have ending := Text.ending value
    cases ending with
    | word solid => exact .word solid
    | blanks blank wide solid =>
        rw [restart_blanks parts blank wide solid] at whole
        exact absurd (List.length_eq_zero_iff.1 whole) wide
    | @phrase front first gap last apart begun filled blank wide solid =>
        rw [restart_phrase parts apart begun filled blank wide solid] at whole
        split at whole
        next known =>
          obtain rfl := List.length_eq_zero_iff.1 whole
          have spaced : ' ' ∈ gap := by
            have member := known.1
            rw [parts, List.nil_append, List.mem_append, List.mem_append] at member
            rcases member with (inFirst | inGap) | inLast
            · exact absurd (begun ' ' inFirst) (by decide)
            · exact inGap
            · exact absurd (solid ' ' inLast) (by decide)
          rw [List.nil_append]
          exact .phrase begun filled blank spaced solid
        next =>
          have nothing := List.append_eq_nil_iff.1 (List.length_eq_zero_iff.1 whole)
          exact absurd nothing.2 wide
  · intro settles
    generalize parts : candidate.value = value at settles
    cases settles with
    | word solid =>
        subst parts
        exact restart_word solid
    | @phrase first gap last begun filled blank spaced solid =>
        have known : ' ' ∈ candidate.value ∧ first ++ gap ++ last <+: candidate.value := by
          rw [parts]
          exact ⟨List.mem_append_left _ (List.mem_append_right _ spaced), List.prefix_rfl⟩
        have wide : gap ≠ [] := List.ne_nil_of_mem spaced
        have whole : candidate.value = [] ++ first ++ gap ++ last := parts
        rw [restart_phrase whole rfl begun filled blank wide solid, if_pos known, List.length_nil]

/-- The span of a session without a sigil starts behind white space. -/
theorem endsBlank_take_spanStart {source : Source} (plain : source.sigils = []) (text : Text)
    (cursor : Nat) (candidate : Candidate) :
    Text.endsBlank (text.take (spanStart source text cursor [candidate])) = true := by
  rw [spanStart_of_plain plain]
  cases widened : phraseStart? text (text.tokenStart cursor) cursor [candidate] with
  | none => exact text.endsBlank_take_tokenStart cursor
  | some wider =>
      obtain ⟨_, found, _⟩ := phraseStart?_eq_some_iff.1 widened
      exact Text.endsBlank_take_of_precedingWordStart? found

end CompletionSession

namespace Completion

/-- The cursor stands behind the only candidate, which white space and the ends of the line keep
apart from the rest. -/
structure Holds (completion : Completion) (line : LineBuffer) (candidate : Candidate)
    (head tail : Text) : Prop extends line.Shows head candidate.value tail where
  apart : head.endsBlank = true
  behind : tail.startsBlank = true
  unlimited : line.limit? = none
  small : ∀ session, completion.session? = some session → session.candidates.length ≤ 1

theorem press_of_small {completion : Completion}
    (small : ∀ session, completion.session? = some session → session.candidates.length ≤ 1)
    (buffer : LineBuffer) (source : Source) (next : Nat → Option Nat → Nat) :
    completion.press buffer source next = completion.activate buffer source := by
  rcases completion.press_cases buffer source next with ⟨session, held, choice, _⟩ | ⟨_, anew⟩
  · exact absurd (small session held) (by omega)
  · exact anew

/-- A press without a choice puts the only candidate into the span of a new session. -/
theorem holds_press {completion : Completion} {buffer : LineBuffer} {source : Source}
    {candidate : Candidate} (answers : source.Answers candidate)
    (inside : buffer.cursor ≤ buffer.length) (unlimited : buffer.limit? = none)
    (small : ∀ session, completion.session? = some session → session.candidates.length ≤ 1)
    (next : Nat → Option Nat → Nat) :
    let pressed := completion.press buffer source next
    let start := CompletionSession.spanStart source buffer.shown buffer.cursor [candidate]
    let stop := buffer.shown.tokenEnd buffer.cursor
    pressed.1.Holds pressed.2.1 candidate (buffer.shown.take start) (buffer.shown.drop stop) := by
  intro pressed start stop
  have offered : (opening buffer source).candidates = [candidate] := answers.single _ _
  have start_eq : (opening buffer source).start = start := by
    change CompletionSession.spanStart _ _ _ (opening buffer source).candidates = _
    rw [offered]
  have first : (opening buffer source).candidates[0]? = some candidate := by
    rw [offered]
    rfl
  have placed : pressed = ({ completion with
      session? := some ((opening buffer source).place buffer (some 0)).1 },
      ((opening buffer source).place buffer (some 0)).2, .completed) := by
    change completion.press buffer source next = _
    rw [press_of_small small, activate_eq]
    simp only [offered, List.cons_ne_self, List.length_singleton, if_true, if_false]
  have spans := opening_spans inside source
  obtain ⟨filled, atStop⟩ := spans.put candidate.value
  rw [placed, CompletionSession.place, CompletionSession.select_eq first]
  rw [unlimited, start_eq] at filled
  refine ⟨⟨filled.shown_eq, ?_⟩, CompletionSession.endsBlank_take_spanStart answers.plain _ _ _,
    Text.startsBlank_drop_tokenEnd _ _, unlimited, fun session held => ?_⟩
  · have cursor := atStop.trans (filled.stop_eq.trans (congrArg (· + _) filled.start_eq))
    rw [List.length_append]
    exact cursor
  · obtain rfl := Option.some.inj held
    exact Nat.le_of_eq (congrArg List.length offered)

/-- Another press puts the start of the candidate in front of it that the new span leaves out. -/
theorem Holds.press {completion : Completion} {line : LineBuffer} {candidate : Candidate}
    {head tail : Text} (holds : completion.Holds line candidate head tail) {source : Source}
    (answers : source.Answers candidate) (next : Nat → Option Nat → Nat) :
    let pressed := completion.press line source next
    pressed.1.Holds pressed.2.1 candidate
      (head ++ candidate.value.take (CompletionSession.restart candidate)) tail := by
  have inside : line.cursor ≤ line.length := by
    rw [holds.cursor_eq, LineBuffer.length, holds.shown_eq]
    simp only [List.length_append]
    omega
  have again := holds_press answers inside holds.unlimited holds.small next
  dsimp only at again
  rw [holds.shown_eq, holds.cursor_eq,
    CompletionSession.spanStart_eq_add_restart answers.plain holds.apart,
    Text.tokenEnd_of_startsBlank _ holds.behind, List.drop_left, List.append_assoc,
    List.take_length_add_append, List.take_append_of_le_length
      (CompletionSession.restart_le_length candidate)] at again
  exact again

/-- Every press of a run puts the same text in front of the candidate. -/
theorem Holds.pressAll {completion : Completion} {line : LineBuffer} {candidate : Candidate}
    {head tail : Text} (holds : completion.Holds line candidate head tail)
    {presses : List (TabDirection × Source)}
    (answers : ∀ press ∈ presses, press.2.Answers candidate) :
    let run := completion.pressAll line presses
    let piece := candidate.value.take (CompletionSession.restart candidate)
    run.1.Holds run.2 candidate (head ++ (List.replicate presses.length piece).flatten) tail := by
  induction presses generalizing completion line head with
  | nil => simpa [Completion.pressAll] using holds
  | cons press rest inductionHypothesis =>
      have pressed := holds.press (answers press List.mem_cons_self) press.1.next
      have run := inductionHypothesis pressed fun other member =>
        answers other (List.mem_cons_of_mem press member)
      dsimp only at run ⊢
      rw [List.append_assoc] at run
      rw [List.length_cons, List.replicate_succ, List.flatten_cons]
      exact run

/-- A press that completes has no choice. -/
theorem small_of_completed {completion opened : Completion} {buffer line : LineBuffer}
    {source : Source} {next : Nat → Option Nat → Nat}
    (completed : completion.press buffer source next = (opened, line, .completed)) :
    ∀ session, completion.session? = some session → session.candidates.length ≤ 1 := by
  rcases completion.press_cases buffer source next with ⟨_, _, _, moved⟩ | ⟨small, _⟩
  · rw [moved] at completed
    simp at completed
  · exact small

/-- Behind a completed candidate every further press puts another copy of the candidate's start into
the line, up to the place where the new span starts. So the line and the cursor stay for any number
of presses exactly if the candidate settles. -/
theorem shown_pressAll_of_single {buffer : LineBuffer} (reachable : buffer.Reachable)
    (unlimited : buffer.limit? = none) {source : Source} {candidate : Candidate}
    (answers : source.Answers candidate) {completion opened : Completion}
    {direction : TabDirection} {line : LineBuffer}
    (completed : completion.press buffer source direction.next = (opened, line, .completed)) :
    let value := candidate.value
    let after (presses : List (TabDirection × Source)) := (opened.pressAll line presses).2
    (∃ head tail : Text, line.shown = head ++ value ++ tail ∧
        line.cursor = (head ++ value).length ∧
        ∀ presses : List (TabDirection × Source),
          (∀ press ∈ presses, press.2.Answers candidate) →
            let piece := value.take (CompletionSession.restart candidate)
            let copies := (List.replicate presses.length piece).flatten
            (after presses).shown = head ++ copies ++ value ++ tail ∧
              (after presses).cursor = (head ++ copies ++ value).length) ∧
      ((∀ presses : List (TabDirection × Source),
          (∀ press ∈ presses, press.2.Answers candidate) →
            (after presses).shown = line.shown ∧ (after presses).cursor = line.cursor) ↔
        Settles value) := by
  intro value after
  have pressed := holds_press answers reachable.bounded.cursor_le unlimited
    (small_of_completed completed) direction.next
  rw [completed] at pressed
  dsimp only at pressed
  refine ⟨⟨_, _, pressed.shown_eq, pressed.cursor_eq, fun presses same => ?_⟩, fun stays => ?_,
    fun settles presses same => ?_⟩
  · have run := pressed.pressAll same
    exact ⟨run.shown_eq, run.cursor_eq⟩
  · rw [← CompletionSession.restart_eq_zero_iff]
    have known : ∀ press ∈ [(direction, source)], press.2.Answers candidate := by
      intro press member
      rw [List.mem_singleton.1 member]
      exact answers
    have run := pressed.pressAll known
    have still := run.shown_eq.symm.trans ((stays [(direction, source)] known).1.trans
      pressed.shown_eq)
    have lengths := congrArg List.length still
    have short := CompletionSession.restart_le_length candidate
    simp only [List.length_append, List.length_singleton, List.replicate_one,
      List.flatten_singleton, List.length_take] at lengths
    omega
  · have run := pressed.pressAll same
    have nothing : value.take (CompletionSession.restart candidate) = [] := by
      rw [CompletionSession.restart_eq_zero_iff.2 settles, List.take_zero]
    dsimp only at run
    rw [nothing, List.flatten_replicate_nil, List.append_nil] at run
    exact ⟨run.shown_eq.trans pressed.shown_eq.symm, run.cursor_eq.trans pressed.cursor_eq.symm⟩

/-- Two words stay as they are, in front of which a line has other words. -/
theorem shown_pressAll_two_words :
    let source := Source.ofCandidates fun _ _ => [.ofValue (Text.of "git log")]
    let buffer := (LineBuffer.empty none).perform (.setDraft (Text.of "sudo gi"))
    let opened := (idle true).tab buffer source
    let after := opened.1.pressAll opened.2.1 [(.forward, source), (.backward, source)]
    buffer.Reachable ∧ buffer.limit? = none ∧ source.Answers (.ofValue (Text.of "git log")) ∧
      opened.2.2 = .completed ∧ after.2.shown = Text.of "sudo git log" ∧ after.2.cursor = 12 := by
  intro source buffer opened after
  have reachable : buffer.Reachable := .perform (.empty none) _
  have answers : source.Answers (.ofValue (Text.of "git log")) := ⟨rfl, fun _ _ => rfl⟩
  have completed : (idle true).press buffer source TabDirection.forward.next =
      (opened.1, opened.2.1, .completed) := rfl
  have settles : Settles (Text.of "git" ++ Text.of " " ++ Text.of "log") :=
    .phrase (by decide) (by decide) (by decide) (by decide) (by decide)
  obtain ⟨shown, cursor⟩ := (shown_pressAll_of_single reachable rfl answers completed).2.2 settles
    [(.forward, source), (.backward, source)] (by simp [answers])
  exact ⟨reachable, rfl, answers, rfl, shown.trans (by decide), cursor.trans (by decide)⟩

/-- Of three words the first two are put in front once more. -/
theorem shown_pressAll_three_words :
    let source := Source.ofCandidates fun _ _ => [.ofValue (Text.of "docker compose up")]
    let buffer := (LineBuffer.empty none).perform (.setDraft (Text.of "docker co"))
    let opened := (idle true).tab buffer source
    let after := opened.1.pressAll opened.2.1 [(.forward, source)]
    buffer.Reachable ∧ buffer.limit? = none ∧
      source.Answers (.ofValue (Text.of "docker compose up")) ∧ opened.2.2 = .completed ∧
      opened.2.1.shown = Text.of "docker compose up" ∧
      after.2.shown = Text.of "docker compose docker compose up" := by
  intro source buffer opened after
  exact ⟨.perform (.empty none) _, rfl, ⟨rfl, fun _ _ => rfl⟩, by decide, by decide, by decide⟩

end Completion

end Promptline
