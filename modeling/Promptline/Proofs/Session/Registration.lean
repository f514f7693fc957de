/-
This file compares a line of the settings with the same line at the prompt. They leave the same
registry unless the last command of the line ends with a blank that a backslash keeps, because the
prompt trims the line.
-/

import Promptline.Proofs.Spec.LastWord
import Promptline.Proofs.Text.Trimming
import Promptline.Session.Basic

namespace Promptline

theorem BuiltinName.text_of_ofWord? {word : Text} {name : BuiltinName}
    (known : ofWord? word = some name) : name.text = word := by
  simpa using List.find?_some known

namespace Builtin

open CompleteCommand

/-- The line changes specifications, and the blank that trimming takes from the last command makes a
difference to them. -/
def LosesBlank (line : Text) : Prop :=
  ∃ blank command, line.keptBlank? = some blank ∧
    parse? line.trim = some (.ok (.complete command)) ∧ command.TellsApart [blank]

section Reading

variable {line : Text}

/-- Only a line with this first word is a call of `complete`, and its quotes are closed. -/
theorem of_parse?_complete {command : CompleteCommand}
    (parsed : parse? line = some (.ok (.complete command))) :
    line.words.head? = some (Text.of "complete") ∧ line.trimStart.splitWords? ≠ none := by
  simp only [parse?, Text.words_trimStart, Option.bind_eq_bind, Option.bind_eq_some_iff,
    Option.pure_def, Option.some.injEq] at parsed
  obtain ⟨word, first, name, known, answer⟩ := parsed
  cases cut : line.trimStart.splitWords? with
  | none => simp [cut] at answer
  | some words =>
      refine ⟨?_, Option.some_ne_none words⟩
      cases name with
      | complete => rw [first, ← BuiltinName.text_of_ofWord? known, BuiltinName.text]
      | compgen =>
          simp only [cut] at answer
          cases read : CompgenCommand.parse (words.drop 1) <;> (rw [read] at answer; cases answer)

theorem registry_runLine_of_other (registry : Registry) (host : CompletionHost)
    (other : ∀ command, parse? line ≠ some (.ok (.complete command))) :
    (runLine registry host line).1 = registry := by
  simp only [runLine]
  split
  · rfl
  · rfl
  next command parsed => exact absurd parsed (other command)
  · rfl

theorem registry_runLine_of_call (registry : Registry) (host : CompletionHost)
    {answer : Except BuiltinError CompleteCommand}
    (parsed : parse? line = some (answer.map .complete)) :
    (runLine registry host line).1 = after registry answer := by
  simp only [runLine, parsed]
  cases answer <;> rfl

theorem losesBlank_iff {answer : Except BuiltinError CompleteCommand} {blank : Char}
    (parsed : parse? line.trim = some (answer.map .complete))
    (kept : line.keptBlank? = some blank) :
    LosesBlank line ↔ Differs [blank] answer := by
  simp only [LosesBlank, Differs, kept, parsed, Option.some.injEq]
  cases answer <;> simp [Except.map]

end Reading

/-- A call has the same arguments on both lines, but the last of them has the kept blank, too. -/
theorem registry_runLine_trim_iff (host : CompletionHost) (line : Text) :
    (∀ registry : Registry, Spec.Ordered registry.specs →
        (runLine registry host line.trim).1 = (runLine registry host line).1) ↔
      ¬ LosesBlank line := by
  have cut := line.splitWords?_trimStart
  by_cases call : line.words.head? = some (Text.of "complete") ∧ line.trim.splitWords? ≠ none
  · obtain ⟨first, closed⟩ := call
    obtain ⟨words, cut'⟩ := Option.ne_none_iff_exists'.1 closed
    rw [cut', Option.map_some] at cut
    have parsed := parse?_complete (by rw [Text.words_trimStart, first]) cut
    have parsed' : parse? line.trim = some ((parse (words.drop 1)).map .complete) :=
      parse?_complete (by rw [Text.words_trimStart, Text.words_trim, first])
        (by rw [Text.trimStart_trim, cut'])
    simp only [registry_runLine_of_call _ host parsed, registry_runLine_of_call _ host parsed',
      Text.drop_growLast]
    cases kept : line.keptBlank? with
    | none =>
        refine iff_of_true (fun registry _ => ?_) (by simp [LosesBlank, kept])
        rw [Option.toList_none, Text.growLast_nil]
    | some blank =>
        rw [losesBlank_iff parsed' kept]
        exact after_parse_growLast_iff _ (List.cons_ne_nil blank [])
  · have other : ∀ command, parse? line ≠ some (.ok (.complete command)) := by
      intro command parsed
      obtain ⟨first, closed⟩ := of_parse?_complete parsed
      refine call ⟨first, fun unclosed => closed ?_⟩
      rw [cut, unclosed, Option.map_none]
    have other' : ∀ command, parse? line.trim ≠ some (.ok (.complete command)) := by
      intro command parsed
      have reads := of_parse?_complete parsed
      rw [Text.words_trim, Text.trimStart_trim] at reads
      exact call reads
    refine iff_of_true (fun registry _ => ?_) fun ⟨_, command, _, parsed, _⟩ =>
      other' command parsed
    rw [registry_runLine_of_other registry host other,
      registry_runLine_of_other registry host other']

end Builtin

namespace Session

/-- At the prompt the trimmed line is run, and a blank line and the commands of the session itself
are no calls. -/
theorem registry_execute (session : Session) (line : Text) (history : List HistoryItem) :
    (session.execute line history).1.registry =
      (Builtin.runLine session.registry session.host line.trim).1 := by
  have other (apart : line.words.head? ≠ some (Text.of "complete")) : session.registry =
      (Builtin.runLine session.registry session.host line.trim).1 := by
    refine (Builtin.registry_runLine_of_other _ _ fun command parsed => apart ?_).symm
    rw [← Text.words_trim]
    exact (Builtin.of_parse?_complete parsed).1
  simp only [execute]
  split
  next blank => exact other (by simp [blank])
  next word first =>
    rw [first] at other
    split
    next exit => exact other (exit ▸ by decide)
    split
    next listing => exact other (listing ▸ by decide)
    · rfl

theorem registry_register_singleton (session : Session) (line : Text) :
    (session.register [line]).1.registry =
      (Builtin.runLine session.registry session.host line).1 := by
  simp only [register, List.foldl_cons, List.foldl_nil]
  split <;> simp_all

/-- A line leaves every registry at the prompt as it does in the settings, unless the prompt trims a
blank that tells its last command from another one. -/
theorem execute_eq_register_iff (line : Text) (history : List HistoryItem) :
    (∀ session : Session, Spec.Ordered session.registry.specs →
        (session.execute line history).1.registry = (session.register [line]).1.registry) ↔
      ¬ Builtin.LosesBlank line := by
  simp only [registry_execute, registry_register_singleton]
  constructor
  · intro agree
    exact (Builtin.registry_runLine_trim_iff ⟨fun _ _ => none, none⟩ line).1
      fun registry ordered => agree ⟨registry, ⟨fun _ _ => none, none⟩, []⟩ ordered
  · intro whole session
    exact (Builtin.registry_runLine_trim_iff session.host line).2 whole session.registry

/-- The prompt enters the command without the blank that the backslash keeps. -/
theorem execute_ne_register :
    let session : Session := ⟨.empty, ⟨fun _ _ => none, none⟩, []⟩
    let line := Text.of "complete -W x a\\ "
    let prompted := (session.execute line []).1.registry
    let registered := (session.register [line]).1.registry
    session.registry.Reachable ∧ line.words.head? = some (Text.of "complete") ∧
      prompted.commands = [Text.of "a"] ∧ registered.commands = [Text.of "a "] ∧
      prompted ≠ registered := by
  intro session line prompted registered
  have trimmed : prompted.commands = [Text.of "a"] := by decide +kernel
  have whole : registered.commands = [Text.of "a "] := by decide +kernel
  refine ⟨.empty, by decide +kernel, trimmed, whole, fun same => ?_⟩
  rw [same, whole] at trimmed
  exact absurd trimmed (by decide)

end Session

end Promptline
