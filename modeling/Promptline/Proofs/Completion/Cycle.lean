/-
This file follows a completion session through any run of presses. The selection goes round the
circle of the candidates, and each press puts its candidate between the same two parts of the line.
-/

import Mathlib.Algebra.Ring.Int.Defs
import Promptline.Proofs.Completion.Opening

namespace Promptline

/-- The tab key goes through the candidates in two directions. -/
inductive TabDirection where
  | forward
  | backward
  deriving DecidableEq, Repr

namespace TabDirection

/-- The candidate that a press selects. -/
def next : TabDirection → Nat → Option Nat → Nat
  | forward => Completion.following
  | backward => Completion.preceding

/-- The way that a press goes round the circle. -/
def step : TabDirection → Int
  | forward => 1
  | backward => -1

/-- The way of some presses together. -/
def turn (directions : List TabDirection) : Int := (directions.map step).sum

/-- The selection after some presses. -/
def walk (count : Nat) (selected? : Option Nat) (directions : List TabDirection) : Option Nat :=
  directions.foldl (fun selected? direction => some (direction.next count selected?)) selected?

theorem walk_append (count : Nat) (selected? : Option Nat) (first second : List TabDirection) :
    walk count selected? (first ++ second) = walk count (walk count selected? first) second :=
  List.foldl_append

theorem next_lt (direction : TabDirection) {count : Nat} (offered : 0 < count)
    (selected? : Option Nat) : direction.next count selected? < count := by
  cases direction with
  | forward => exact Completion.following_lt offered selected?
  | backward => exact Completion.preceding_lt offered selected?

/-- A press from a selection goes one step round the circle. -/
theorem next_selected (direction : TabDirection) {count index : Nat} (inside : index < count) :
    (direction.next count (some index) : Int) = (index + direction.step) % count := by
  cases direction with
  | forward => rfl
  | backward =>
      have back : ((index + count - 1 : Nat) : Int) = index + -1 + count := by omega
      change (((index + count - 1) % count : Nat) : Int) = (index + -1) % count
      rw [Int.natCast_emod, back, Int.add_emod_right]

/-- A selection stays one, and the steps of all presses add up. -/
theorem walk_selected {count index : Nat} (inside : index < count)
    (directions : List TabDirection) :
    ∃ last, walk count (some index) directions = some last ∧ last < count ∧
      (last : Int) = (index + turn directions) % count := by
  induction directions generalizing index with
  | nil =>
      refine ⟨index, rfl, inside, ?_⟩
      rw [turn, List.map_nil, List.sum_nil, Int.add_zero]
      exact (Int.emod_eq_of_lt (by omega) (by omega)).symm
  | cons direction rest inductionHypothesis =>
      have offered : 0 < count := Nat.zero_lt_of_lt inside
      obtain ⟨last, walked, known, sum⟩ :=
        inductionHypothesis (direction.next_lt offered (some index))
      refine ⟨last, walked, known, ?_⟩
      rw [sum, direction.next_selected inside, Int.emod_add_emod, turn, turn, List.map_cons,
        List.sum_cons, Int.add_assoc]

/-- Presses that go round the circle whole end where they began. -/
theorem walk_of_dvd_turn {count index : Nat} (inside : index < count)
    {directions : List TabDirection} (whole : (count : Int) ∣ turn directions) :
    walk count (some index) directions = some index := by
  obtain ⟨last, walked, known, sum⟩ := walk_selected inside directions
  obtain ⟨rounds, turned⟩ := whole
  rw [turned, Int.add_mul_emod_self_left, Int.emod_eq_of_lt (by omega) (by omega)] at sum
  rw [walked, Int.ofNat.inj sum]

/-- Presses stay among the candidates. -/
theorem walk_lt {count : Nat} (offered : 0 < count) {selected? : Option Nat}
    (known : ∀ index, selected? = some index → index < count) (directions : List TabDirection) :
    ∀ index, walk count selected? directions = some index → index < count := by
  induction directions generalizing selected? with
  | nil => exact known
  | cons direction rest inductionHypothesis =>
      apply inductionHypothesis
      intro index chosen
      obtain rfl := Option.some.inj chosen
      exact direction.next_lt offered selected?

/-- Only without a press is there no selection. -/
theorem eq_nil_of_walk_eq_none {count : Nat} {selected? : Option Nat}
    {directions : List TabDirection} (undecided : walk count selected? directions = none) :
    directions = [] := by
  induction directions generalizing selected? with
  | nil => rfl
  | cons direction rest inductionHypothesis =>
      have nothing : rest = [] := inductionHypothesis undecided
      subst nothing
      simp [walk] at undecided

end TabDirection

namespace Completion

/-- The session and the line after some presses, each with the source that it asks. -/
def pressAll (completion : Completion) (buffer : LineBuffer) :
    List (TabDirection × Source) → Completion × LineBuffer
  | [] => (completion, buffer)
  | (direction, source) :: rest =>
      let (pressed, line, _) := completion.press buffer source direction.next
      pressed.pressAll line rest

/-- A press in a session with a choice selects the next candidate and asks no source. -/
theorem press_of_choice {session : CompletionSession} (choice : 1 < session.candidates.length)
    (eager : Bool) (buffer : LineBuffer) (source : Source) (next : Nat → Option Nat → Nat) :
    (⟨some session, eager⟩ : Completion).press buffer source next =
      let index := next session.candidates.length session.selected?
      (⟨some (session.select buffer index).1, eager⟩, (session.select buffer index).2,
        .selected index) := by
  simp only [press, choice, if_true]

/-- All that a run of presses leaves behind is its last selection. -/
theorem pressAll_place {session : CompletionSession} {buffer : LineBuffer}
    {head middle tail : Text} (spans : session.Spans buffer head middle tail)
    (undecided : session.selected? = none) (choice : 1 < session.candidates.length) (eager : Bool)
    {selected? : Option Nat}
    (known : ∀ index, selected? = some index → index < session.candidates.length)
    (presses : List (TabDirection × Source)) :
    let placed := session.place buffer selected?
    let last := session.place buffer
      (TabDirection.walk session.candidates.length selected? (presses.map Prod.fst))
    pressAll ⟨some placed.1, eager⟩ placed.2 presses = (⟨some last.1, eager⟩, last.2) := by
  induction presses generalizing selected? with
  | nil => rfl
  | cons press rest inductionHypothesis =>
      obtain ⟨direction, source⟩ := press
      have offered := direction.next_lt (Nat.zero_lt_of_lt choice) selected?
      have several : 1 < (session.place buffer selected?).1.candidates.length := by
        rwa [CompletionSession.candidates_place]
      have pressed := press_of_choice several eager (session.place buffer selected?).2 source
        direction.next
      rw [CompletionSession.candidates_place,
        CompletionSession.selected?_place undecided buffer known] at pressed
      dsimp only at pressed
      rw [CompletionSession.select_place spans known offered] at pressed
      simp only [pressAll, pressed]
      exact inductionHypothesis fun index chosen => by
        obtain rfl := Option.some.inj chosen
        exact offered

/-- The span holds the common start after an extension, and else what stood there before. -/
def found (buffer : LineBuffer) (session : CompletionSession) (outcome : TabOutcome)
    (room? : Option Nat) (stop : Nat) : Text :=
  if outcome = .extended then
    LineBuffer.cut room? (Text.commonStart (session.candidates.map Candidate.value))
  else buffer.shown.slice session.start stop

/-- A session with a choice rests on one without a selection. Its span lies between the parts of the
line that are left of it and right of it, and at most the first candidate has been put there. -/
structure Rests (buffer : LineBuffer) (source : Source) (outcome : TabOutcome)
    (opened : CompletionSession × LineBuffer) (base : CompletionSession) (line : LineBuffer)
    (selected? : Option Nat) : Prop where
  opened_eq : opened = base.place line selected?
  undecided : base.selected? = none
  choice : 1 < base.candidates.length
  start_eq : base.start = (opening buffer source).start
  limit_eq : line.limit? = buffer.limit?
  spans :
    let head := buffer.shown.take base.start
    let tail := buffer.shown.drop (buffer.shown.tokenEnd buffer.cursor)
    let room? := CompletionSession.roomBetween buffer.limit? head tail
    base.Spans line head
      (found buffer base outcome room? (buffer.shown.tokenEnd buffer.cursor)) tail
  begun : selected? = none ∧
      (outcome = .extended ∧ line.cursor = base.stop ∨ outcome = .ambiguous) ∨
    selected? = some 0 ∧ outcome = .selected 0

/-- A press that opens a choice extends the line, selects the first candidate or waits. -/
theorem Opens.rests {eager : Bool} {buffer : LineBuffer} {source : Source}
    {opened : CompletionSession × LineBuffer} {outcome : TabOutcome}
    (opens : Opens eager buffer source opened outcome)
    (choice : 1 < opened.1.candidates.length) (inside : buffer.cursor ≤ buffer.length) :
    ∃ base line selected?, Rests buffer source outcome opened base line selected? := by
  have spans := opening_spans inside source
  cases opens with
  | completed single =>
      rw [CompletionSession.candidates_place] at choice
      omega
  | @extended shared several longer =>
      obtain ⟨filled, atStop⟩ := spans.put shared
      have common := eq_commonStart_of_extension? longer
      refine ⟨_, _, none, rfl, rfl, several, rfl, rfl, ?_, .inl ⟨rfl, .inl ⟨rfl, atStop⟩⟩⟩
      rw [common] at filled ⊢
      exact filled
  | selected several hurried =>
      exact ⟨opening buffer source, buffer, some 0, rfl, rfl, several, rfl, rfl, spans,
        .inr ⟨rfl, rfl⟩⟩
  | ambiguous several patient =>
      exact ⟨opening buffer source, buffer, none, rfl, rfl, several, rfl, rfl, spans,
        .inl ⟨rfl, .inr rfl⟩⟩

section Rests

variable {buffer line : LineBuffer} {source : Source} {outcome : TabOutcome}
  {opened : CompletionSession × LineBuffer} {base : CompletionSession} {selected? : Option Nat}

theorem Rests.known (rests : Rests buffer source outcome opened base line selected?) :
    ∀ index, selected? = some index → index < base.candidates.length := by
  intro index chosen
  have choice := rests.choice
  rcases rests.begun with ⟨none, _⟩ | ⟨first, _⟩
  · simp [none] at chosen
  · obtain rfl := Option.some.inj (first.symm.trans chosen)
    omega

theorem Rests.candidates_eq (rests : Rests buffer source outcome opened base line selected?) :
    opened.1.candidates = base.candidates := by
  rw [rests.opened_eq, CompletionSession.candidates_place]

/-- After any presses the session still rests on the same one. -/
theorem Rests.pressAll_eq (rests : Rests buffer source outcome opened base line selected?)
    (eager : Bool) (presses : List (TabDirection × Source)) :
    let last := base.place line
      (TabDirection.walk base.candidates.length selected? (presses.map Prod.fst))
    pressAll ⟨some opened.1, eager⟩ opened.2 presses = (⟨some last.1, eager⟩, last.2) := by
  rw [rests.opened_eq]
  exact pressAll_place rests.spans rests.undecided rests.choice eager rests.known presses

theorem Rests.walk_lt (rests : Rests buffer source outcome opened base line selected?)
    (presses : List (TabDirection × Source)) :
    ∀ index, TabDirection.walk base.candidates.length selected? (presses.map Prod.fst) =
      some index → index < base.candidates.length :=
  TabDirection.walk_lt (Nat.zero_lt_of_lt rests.choice) rests.known _

theorem Rests.selected?_pressAll (rests : Rests buffer source outcome opened base line selected?)
    (eager : Bool) (presses : List (TabDirection × Source)) :
    (pressAll ⟨some opened.1, eager⟩ opened.2 presses).1.selected? =
      TabDirection.walk base.candidates.length selected? (presses.map Prod.fst) := by
  rw [rests.pressAll_eq]
  exact CompletionSession.selected?_place rests.undecided line (rests.walk_lt presses)

/-- The cursor stands at the end of the span, except before the first change of the line. -/
theorem Rests.cursor_eq_stop (rests : Rests buffer source outcome opened base line selected?)
    (presses : List (TabDirection × Source)) :
    let last := base.place line
      (TabDirection.walk base.candidates.length selected? (presses.map Prod.fst))
    outcome = .ambiguous ∧ presses = [] ∨ last.2.cursor = last.1.stop := by
  have stays := rests.walk_lt presses
  cases chosen : TabDirection.walk base.candidates.length selected? (presses.map Prod.fst) with
  | none =>
      have nothing := List.map_eq_nil_iff.1 (TabDirection.eq_nil_of_walk_eq_none chosen)
      subst nothing
      rcases rests.begun with ⟨_, ⟨_, atStop⟩ | patient⟩ | ⟨first, _⟩
      · exact .inr atStop
      · exact .inl ⟨patient, rfl⟩
      · simp [TabDirection.walk, first] at chosen
  | some index =>
      rw [chosen] at stays
      exact .inr ((rests.spans.place rests.undecided stays).2 (by simp))

/-- Without a selection nothing has been pressed since the session opened. -/
theorem Rests.nothing_of_undecided
    (rests : Rests buffer source outcome opened base line selected?)
    {presses : List (TabDirection × Source)}
    (chosen : TabDirection.walk base.candidates.length selected? (presses.map Prod.fst) = none) :
    presses = [] ∧ selected? = none ∧ (outcome = .extended ∨ outcome = .ambiguous) := by
  have nothing := List.map_eq_nil_iff.1 (TabDirection.eq_nil_of_walk_eq_none chosen)
  subst nothing
  refine ⟨rfl, chosen, ?_⟩
  rcases rests.begun with ⟨_, ⟨extended, _⟩ | patient⟩ | ⟨first, _⟩
  · exact .inl extended
  · exact .inr patient
  · simp [TabDirection.walk, first] at chosen

/-- From a selection the presses go round the circle, and whole rounds leave no trace. -/
theorem Rests.turn (rests : Rests buffer source outcome opened base line selected?)
    (eager : Bool) {presses : List (TabDirection × Source)} {index : Nat}
    (chosen : TabDirection.walk base.candidates.length selected? (presses.map Prod.fst) =
      some index) (more : List (TabDirection × Source)) :
    let turn := TabDirection.turn (more.map Prod.fst)
    let run := pressAll ⟨some opened.1, eager⟩ opened.2
    (run (presses ++ more)).1.selected? =
        some ((index + turn) % (base.candidates.length : Int)).toNat ∧
      ((base.candidates.length : Int) ∣ turn → run (presses ++ more) = run presses) := by
  have offered := rests.walk_lt presses index chosen
  refine ⟨?_, fun whole => ?_⟩
  · obtain ⟨last, walked, _, sum⟩ := TabDirection.walk_selected offered (more.map Prod.fst)
    rw [rests.selected?_pressAll, List.map_append, TabDirection.walk_append, chosen, walked,
      ← sum, Int.toNat_natCast]
  · rw [rests.pressAll_eq, rests.pressAll_eq, List.map_append, TabDirection.walk_append, chosen,
      TabDirection.walk_of_dvd_turn offered whole]

end Rests

/-- A press on an idle completion opens what the source offers. -/
theorem opens_of_press {completion : Completion} (inactive : completion.isActive = false)
    {buffer : LineBuffer} {source : Source} {next : Nat → Option Nat → Nat}
    {opened : CompletionSession} {started : LineBuffer} {outcome : TabOutcome}
    (pressed : completion.press buffer source next =
      ({ completion with session? := some opened }, started, outcome)) :
    Opens completion.eager buffer source (opened, started) outcome := by
  have idle := session?_of_inactive inactive
  simp only [press, idle] at pressed
  rcases activate_cases completion buffer source with ⟨_, nothing⟩ | ⟨held, result, opens, answer⟩
  · rw [nothing] at pressed
    simp [reset] at pressed
  · rw [answer] at pressed
    simp only [Prod.mk.injEq, Completion.mk.injEq, Option.some.injEq] at pressed
    obtain ⟨⟨session, _⟩, line, same⟩ := pressed
    rw [← same, ← session, ← line]
    exact opens

/-- A session with a choice replaces one span of the line for good. Whatever is pressed, the line is
what stood before the span, then the common start or the selected candidate as far as it fits, then
what stood behind the span. A press goes one step round the circle of the candidates, and presses
that go round it whole leave no trace. -/
theorem shown_pressAll_of_choice {buffer : LineBuffer} (reachable : buffer.Reachable)
    {completion : Completion} (inactive : completion.isActive = false) (direction : TabDirection)
    (source : Source) {opened : CompletionSession} {started : LineBuffer} {outcome : TabOutcome}
    (activated : completion.press buffer source direction.next =
      ({ completion with session? := some opened }, started, outcome))
    (choice : 2 ≤ opened.candidates.length) (presses : List (TabDirection × Source)) :
    let count := opened.candidates.length
    let stop := buffer.shown.tokenEnd buffer.cursor
    let head := buffer.shown.take opened.start
    let tail := buffer.shown.drop stop
    let room? := CompletionSession.roomBetween buffer.limit? head tail
    let run := pressAll { completion with session? := some opened } started
    opened.start ≤ buffer.cursor ∧ buffer.cursor ≤ stop ∧ stop ≤ buffer.length ∧
    (∀ text, text <+: Text.commonStart (opened.candidates.map Candidate.value) ↔
      ∀ candidate ∈ opened.candidates, text <+: candidate.value) ∧
    ∃ (session : CompletionSession) (line : LineBuffer),
      run presses = ({ completion with session? := some session }, line) ∧
      session.candidates = opened.candidates ∧ session.start = opened.start ∧
      session.Spans line head
        (session.content room? (found buffer opened outcome room? stop)) tail ∧
      (outcome = .ambiguous ∧ presses = [] ∨ line.cursor = session.stop) ∧
      (session.selected? = none →
        presses = [] ∧ (outcome = .extended ∨ outcome = .ambiguous) ∧
        ∀ asked, (run [(.forward, asked)]).1.selected? = some 0 ∧
          (run [(.backward, asked)]).1.selected? = some (count - 1)) ∧
      ∀ index, session.selected? = some index → index < count ∧
        ∀ more, let turn := TabDirection.turn (more.map Prod.fst)
          (run (presses ++ more)).1.selected? = some ((index + turn) % count).toNat ∧
          ((count : Int) ∣ turn → run (presses ++ more) = run presses) := by
  have inside := reachable.bounded.cursor_le
  have opens := opens_of_press inactive activated
  obtain ⟨before, after, within⟩ := opening_around_cursor inside source
  obtain ⟨base, line, selected?, rests⟩ := opens.rests choice inside
  have candidates : opened.candidates = base.candidates := rests.candidates_eq
  have start : opened.start = base.start :=
    (congrArg (fun held => held.1.start) rests.opened_eq).trans (base.start_place line selected?)
  have sameFound (room? : Option Nat) (stop : Nat) :
      found buffer opened outcome room? stop = found buffer base outcome room? stop := by
    simp only [found, candidates, start]
  have runs := rests.pressAll_eq completion.eager presses
  have selects := rests.selected?_pressAll completion.eager
  have here := CompletionSession.selected?_place rests.undecided line (rests.walk_lt presses)
  rw [← rests.start_eq] at before
  dsimp only
  rw [candidates, start]
  refine ⟨before, after, within, fun text => ?_, _, _, runs, base.candidates_place _ _,
    base.start_place _ _, ?_, rests.cursor_eq_stop presses, fun none => ?_,
    fun index chosen => ?_⟩
  · have values : base.candidates.map Candidate.value ≠ [] := by
      rw [ne_eq, List.map_eq_nil_iff, ← List.length_eq_zero_iff]
      have several := rests.choice
      omega
    rw [Text.isPrefix_commonStart_iff values, List.forall_mem_map]
  · have filled := (rests.spans.place rests.undecided (rests.walk_lt presses)).1
    rw [rests.limit_eq] at filled
    rw [sameFound]
    exact filled
  · rw [here] at none
    obtain ⟨nothing, begun, outcomes⟩ := rests.nothing_of_undecided none
    subst begun
    exact ⟨nothing, outcomes, fun asked =>
      ⟨selects [(.forward, asked)], selects [(.backward, asked)]⟩⟩
  · rw [here] at chosen
    exact ⟨rests.walk_lt presses index chosen, rests.turn completion.eager chosen⟩

/-- A recalled entry is completed in its middle, and the room cuts what is selected. -/
theorem shown_pressAll_recalled_entry :
    let source := Source.ofCandidates fun _ _ =>
      [.ofValue (Text.of "food"), .ofValue (Text.of "foxglove")]
    let buffer := (((LineBuffer.empty (some 9)).perform (.setEntries [Text.of "cd fo -p"])).perform
      .older).perform (.setCursor 4)
    ∃ (opened session : CompletionSession) (started line : LineBuffer),
      buffer.Reachable ∧ (idle false).isActive = false ∧ 2 ≤ opened.candidates.length ∧
      (idle false).tab buffer source = (⟨some opened, false⟩, started, .extended) ∧
      pressAll ⟨some opened, false⟩ started [(.forward, source), (.backward, source)] =
        (⟨some session, false⟩, line) ∧
      session.Spans line (Text.of "cd ") (Text.of "fox") (Text.of " -p") := by
  intro source buffer
  have reachable : buffer.Reachable :=
    .perform (.perform (.perform (.empty (some 9)) (.setEntries _)) .older) (.setCursor 4)
  have inactive : (idle false).isActive = false := rfl
  let extended := (opening buffer source).put buffer (Text.of "fo")
  have activated : (idle false).tab buffer source =
      (⟨some extended.1, false⟩, extended.2, .extended) := rfl
  have choice : 2 ≤ extended.1.candidates.length := by decide
  obtain ⟨_, _, _, _, session, line, ran, _, _, spans, _⟩ :=
    shown_pressAll_of_choice reachable inactive .forward source activated choice
      [(.forward, source), (.backward, source)]
  refine ⟨extended.1, session, extended.2, line, reachable, inactive, choice, activated, ran, ?_⟩
  cases ran
  exact spans

end Completion

end Promptline
