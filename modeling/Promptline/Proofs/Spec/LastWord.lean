/-
This file says what the last word of a call of `complete` means. It is a command, or it belongs to a
flag and then the call changes nothing. More text at its end only matters to a command.
-/

import Promptline.Proofs.Spec.Change
import Promptline.Proofs.Spec.Failure
import Promptline.Proofs.Text.Trimming

namespace Promptline

/-- A flag stays one with more text at its end. -/
theorem isFlag_append {word : Text} (flag : isFlag word = true) {more : Text} (filled : more ≠ []) :
    isFlag (word ++ more) = true := by
  simp only [isFlag, Bool.and_eq_true, decide_eq_true_eq] at flag ⊢
  obtain ⟨dash, -⟩ := flag
  cases word with
  | nil => simp at dash
  | cons c word =>
      refine ⟨dash, fun alone => filled ?_⟩
      exact (List.append_eq_nil_iff.1 (List.cons.inj alone).2).2

namespace CompleteCommand

theorem readFlags_print (flags : CompleteFlags) (rest : List Text) :
    readFlags flags (Text.of "-p" :: rest) = readFlags { flags with print := true } rest := by
  rw [readFlags.eq_def]
  rfl

/-- The call is refused or changes no specification. -/
def Idle (answer : Except BuiltinError CompleteCommand) : Prop :=
  ∀ command, answer = .ok command → command.changed = []

theorem idle_error (error : BuiltinError) : Idle (.error error) := by simp [Idle]

theorem idle_print (commands : List Text) : Idle (.ok (.print commands)) := by simp [Idle, changed]

/-- The answer to some words behind the flags that have been read. -/
def answer (flags : CompleteFlags) (words : List Text) : Except BuiltinError CompleteCommand :=
  (readFlags flags words).bind fun (flags, commands) => ofFlags flags commands

theorem parse_eq_answer (arguments : List Text) :
    parse arguments = answer ⟨none, [], false, false⟩ arguments := rfl

/-- The flags alone decide what becomes of the commands. -/
theorem ofFlags_cases (flags : CompleteFlags) :
    (∀ commands, Idle (ofFlags flags commands)) ∨
      Idle (ofFlags flags []) ∧
        ∃ change : Change, ∀ front last,
          ofFlags flags (front ++ [last]) = .ok (change.call (front ++ [last])) := by
  cases removal : flags.remove with
  | true =>
      refine .inr ⟨?_, .remove, fun front last => ?_⟩
      · simp [ofFlags, removal, idle_error]
      · simp [ofFlags, removal, Change.call]
  | false =>
      cases printing : flags.print with
      | true => exact .inl fun commands => by simp [ofFlags, removal, printing, idle_print]
      | false =>
          cases action : flags.action? with
          | none =>
              refine .inl fun commands => ?_
              cases commands <;> simp [ofFlags, removal, printing, action, idle_print, idle_error]
          | some kindAndValue =>
              obtain ⟨kind, value⟩ := kindAndValue
              refine .inr ⟨?_, .enter kind value flags.options, fun front last => ?_⟩
              · simp [ofFlags, removal, printing, action, idle_error]
              · simp [ofFlags, removal, printing, action, Change.call]

theorem idle_ofFlags_nil (flags : CompleteFlags) : Idle (ofFlags flags []) :=
  (ofFlags_cases flags).elim (fun idle => idle []) And.left

theorem answer_operand (flags : CompleteFlags) {word : Text} (operand : isFlag word = false)
    (rest : List Text) : answer flags (word :: rest) = ofFlags flags (word :: rest) := by
  rw [answer, readFlags.eq_def]
  simp only [operand, Bool.not_false, if_true]
  rfl

/-- A flag at the end leaves the call without commands. -/
theorem idle_of_flag (flags : CompleteFlags) {word : Text} (flag : isFlag word = true) :
    Idle (answer flags [word]) := by
  rw [answer, readFlags.eq_def]
  simp only [flag, Bool.not_true, Bool.false_eq_true, if_false]
  split
  · exact idle_ofFlags_nil _
  split
  · exact idle_error _
  split
  · exact idle_error _
  split
  · exact idle_ofFlags_nil _
  split
  · exact idle_ofFlags_nil _
  · exact idle_error _

/-- What the answers to a call tell of its last word, which is left open. -/
inductive LastWord (answers : Text → Except BuiltinError CompleteCommand) : Prop
  | idle (idle : ∀ word, Idle (answers word))
  | command (change : Change) (front : List Text)
      (calls : ∀ word, answers word = .ok (change.call (front ++ [word])))
  | first (change : Change)
      (calls : ∀ word, isFlag word = false → answers word = .ok (change.call [word]))
      (idle : ∀ word, isFlag word = true → Idle (answers word))

/-- Behind the first command all words are commands. -/
theorem lastWord_of_operands (flags : CompleteFlags) (front : List Text)
    {answers : Text → Except BuiltinError CompleteCommand}
    (reads : ∀ word, answers word = ofFlags flags (front ++ [word])) : LastWord answers := by
  rcases ofFlags_cases flags with idle | ⟨-, change, calls⟩
  · exact .idle fun word => reads word ▸ idle _
  · exact .command change front fun word => (reads word).trans (calls front word)

theorem lastWord (flags : CompleteFlags) (front : List Text) :
    LastWord fun word => answer flags (front ++ [word]) := by
  fun_induction readFlags flags front with
  | case1 flags =>
      rcases ofFlags_cases flags with idle | ⟨-, change, calls⟩
      · refine .idle fun word => ?_
        cases flag : isFlag word with
        | true => exact idle_of_flag flags flag
        | false => exact answer_operand flags flag [] ▸ idle [word]
      · refine .first change (fun word operand => ?_) fun word flag => idle_of_flag flags flag
        exact (answer_operand flags operand []).trans (calls [] word)
  | case2 flags word rest operand =>
      have operand : isFlag word = false := by simpa using operand
      exact lastWord_of_operands flags (word :: rest) fun last =>
        answer_operand flags operand (rest ++ [last])
  | case3 flags rest flag =>
      refine lastWord_of_operands flags rest fun last => ?_
      rw [List.cons_append, answer, readFlags.eq_def]
      rfl
  | case4 flags word flag other kind action =>
      obtain rfl := SpecKind.flag_of_ofFlag? action
      refine .idle fun last => ?_
      rw [List.singleton_append, answer, readFlags_action]
      exact idle_ofFlags_nil _
  | case5 flags word flag other kind action value rest inductionHypothesis =>
      obtain rfl := SpecKind.flag_of_ofFlag? action
      simpa only [List.cons_append, answer, readFlags_action] using inductionHypothesis
  | case6 flags =>
      refine .idle fun last => ?_
      rw [List.singleton_append, answer, readFlags_option]
      exact idle_ofFlags_nil _
  | case7 flags option rest _ _ _ inductionHypothesis =>
      simpa only [List.cons_append, answer, readFlags_option] using inductionHypothesis
  | case8 flags rest _ _ _ _ inductionHypothesis =>
      simpa only [List.cons_append, answer, readFlags_print] using inductionHypothesis
  | case9 flags rest _ _ _ _ _ inductionHypothesis =>
      simpa only [List.cons_append, answer, readFlags_remove] using inductionHypothesis
  | case10 flags word rest flag noEnd action noOption noPrint noRemove =>
      refine .idle fun last => ?_
      rw [List.cons_append, answer, readFlags.eq_def]
      simp only [flag, noEnd, action, noOption, noPrint, noRemove, if_false]
      exact idle_error _

/-- The registry behind a call. -/
def after (registry : Registry) : Except BuiltinError CompleteCommand → Registry
  | .ok command => (command.run registry).1
  | .error _ => registry

theorem Idle.after_eq {answer : Except BuiltinError CompleteCommand} (idle : Idle answer)
    (registry : Registry) : after registry answer = registry := by
  cases answer with
  | error error => rfl
  | ok command =>
      have unchanged := idle command rfl
      cases command with
      | register specs =>
          rw [changed, List.map_eq_nil_iff] at unchanged
          rw [unchanged]
          rfl
      | print commands => cases commands <;> rfl
      | remove commands =>
          rw [changed] at unchanged
          rw [unchanged]
          rfl

/-- More text at the end of the last command makes a difference. It makes none if both commands
stand in front of it, too, and none if the call removes a command twice and ends before it. -/
def TellsApart (more : Text) (command : CompleteCommand) : Prop :=
  ∃ front last, command.changed = front ++ [last] ∧
    ((∃ commands, command = .remove commands) → front.Nodup) ∧
      ¬ (last ∈ front ∧ last ++ more ∈ front)

theorem tellsApart_call (change : Change) (front : List Text) (last more : Text) :
    TellsApart more (change.call (front ++ [last])) ↔
      (change = .remove → front.Nodup) ∧ ¬ (last ∈ front ∧ last ++ more ∈ front) := by
  have removal : (∃ commands, change.call (front ++ [last]) = .remove commands) ↔
      change = .remove := by
    cases change <;> simp [Change.call]
  constructor
  · rintro ⟨front', last', changed, distinct⟩
    rw [Change.changed_call] at changed
    obtain ⟨rfl, same⟩ := List.append_inj' changed rfl
    obtain rfl := List.singleton_inj.1 same
    rwa [removal] at distinct
  · intro distinct
    refine ⟨front, last, Change.changed_call change _, ?_⟩
    rwa [removal]

/-- The answer changes specifications, and more text at the end makes a difference to them. -/
def Differs (more : Text) (answer : Except BuiltinError CompleteCommand) : Prop :=
  ∃ command, answer = .ok command ∧ command.TellsApart more

theorem Idle.not_differs {answer : Except BuiltinError CompleteCommand} (idle : Idle answer)
    (more : Text) : ¬ Differs more answer := by
  rintro ⟨command, rfl, front, last, changed, -⟩
  rw [idle command rfl] at changed
  exact List.append_ne_nil_of_right_ne_nil front (List.cons_ne_nil last []) changed.symm

theorem differs_ok (more : Text) (command : CompleteCommand) :
    Differs more (.ok command) ↔ command.TellsApart more := by
  simp [Differs]

/-- The last word is a command on both lines or is none on both, but a dash with more text is a flag
and the dash alone is not. -/
theorem LastWord.after_eq_iff {answers : Text → Except BuiltinError CompleteCommand}
    (open_ : LastWord answers) (last : Text) {more : Text} (filled : more ≠ []) :
    (∀ registry : Registry, Spec.Ordered registry.specs →
        after registry (answers last) = after registry (answers (last ++ more))) ↔
      ¬ Differs more (answers last) := by
  have different : last ≠ last ++ more := fun same => filled (List.self_eq_append_right.1 same)
  cases open_ with
  | idle idle =>
      refine iff_of_true (fun registry _ => ?_) ((idle last).not_differs more)
      rw [(idle last).after_eq, (idle (last ++ more)).after_eq]
  | command change front calls =>
      rw [calls last, calls (last ++ more), differs_ok, tellsApart_call]
      exact change.run_eq_iff front different
  | first change calls idle =>
      cases flag : isFlag last with
      | true =>
          have idle' := idle _ (isFlag_append flag filled)
          refine iff_of_true (fun registry _ => ?_) ((idle last flag).not_differs more)
          rw [(idle last flag).after_eq, idle'.after_eq]
      | false =>
          rw [calls last flag, differs_ok, ← List.nil_append [last], tellsApart_call]
          cases flag' : isFlag (last ++ more) with
          | false =>
              rw [calls _ flag']
              exact change.run_eq_iff [] different
          | true =>
              obtain ⟨registry, ordered, changes⟩ :=
                change.exists_run_ne (fun _ => List.nodup_nil) last
              refine iff_of_false (fun agree => changes ?_) (by simp)
              exact (agree registry ordered).trans ((idle _ flag').after_eq registry)

theorem after_parse_growLast_iff (arguments : List Text) {more : Text} (filled : more ≠ []) :
    (∀ registry : Registry, Spec.Ordered registry.specs →
        after registry (parse arguments) =
          after registry (parse (Text.growLast more arguments))) ↔
      ¬ Differs more (parse arguments) := by
  rcases List.eq_nil_or_concat' arguments with rfl | ⟨front, last, rfl⟩
  · have idle : Idle (parse []) := idle_print []
    exact iff_of_true (fun _ _ => rfl) (idle.not_differs more)
  · rw [Text.growLast_concat, parse_eq_answer, parse_eq_answer]
    exact (lastWord _ front).after_eq_iff last filled

end CompleteCommand

end Promptline
