/-
This file says what a failed line leaves behind. A line that is refused or asks for an unknown
command changes nothing, but a removal that meets an unknown command has lost those before it.
-/

import Promptline.Proofs.Spec.Reentry

namespace Promptline

namespace Registry

theorem erase_sublist (registry : Registry) (command : Text) :
    (registry.erase command).specs.Sublist registry.specs := List.filter_sublist

/-- A known command leaves a gap. -/
theorem length_erase_lt {registry : Registry} {command : Text}
    (known : (registry.find? command).isSome) :
    (registry.erase command).specs.length < registry.specs.length := by
  obtain ⟨spec, found⟩ := Option.isSome_iff_exists.1 known
  refine List.length_filter_lt_length_iff_exists.2 ⟨spec, List.mem_of_find?_eq_some found, ?_⟩
  have same := List.find?_some found
  simpa using same

end Registry

namespace CompleteCommand

theorem removeAll_sublist (registry : Registry) (commands : List Text) :
    (removeAll registry commands).1.specs.Sublist registry.specs := by
  induction commands generalizing registry with
  | nil => exact List.Sublist.refl _
  | cons command rest inductionHypothesis =>
      simp only [removeAll]
      split
      · exact List.Sublist.refl _
      · exact (inductionHypothesis _).trans (registry.erase_sublist command)

/-- A removal fails at the first unknown command, and the commands before it are gone. -/
theorem removeAll_of_error {registry after : Registry} {commands : List Text} {error : BuiltinError}
    (failed : removeAll registry commands = (after, .error error)) :
    ∃ gone missing rest, commands = gone ++ missing :: rest ∧ error = .notFound missing ∧
      after = gone.foldl Registry.erase registry ∧ after.find? missing = none := by
  induction commands generalizing registry with
  | nil => simp [removeAll] at failed
  | cons command rest inductionHypothesis =>
      simp only [removeAll] at failed
      split at failed
      next unknown =>
        simp only [Prod.mk.injEq, Except.error.injEq] at failed
        obtain ⟨rfl, rfl⟩ := failed
        exact ⟨[], command, rest, rfl, rfl, rfl, unknown⟩
      · obtain ⟨gone, missing, others, rfl, refused, left, unknown⟩ := inductionHypothesis failed
        exact ⟨command :: gone, missing, others, rfl, refused, left, unknown⟩

/-- A removal changes the registry exactly if the first command is known. -/
theorem removeAll_eq_self_iff (registry : Registry) (command : Text) (rest : List Text) :
    (removeAll registry (command :: rest)).1 = registry ↔ registry.find? command = none := by
  simp only [removeAll]
  cases found : registry.find? command with
  | none => simp
  | some spec =>
      have shorter := Registry.length_erase_lt (Option.isSome_iff_exists.2 ⟨spec, found⟩)
      have left := (removeAll_sublist (registry.erase command) rest).length_le
      simp only [reduceCtorEq, iff_false]
      intro same
      rw [same] at left
      omega

/-- Only a removal changes the registry and fails. -/
theorem run_of_error {registry after : Registry} {command : CompleteCommand} {error : BuiltinError}
    (failed : command.run registry = (after, .error error)) :
    (after = registry ∧ ∀ commands, command ≠ .remove commands) ∨
      ∃ commands, command = .remove commands ∧
        removeAll registry commands = (after, .error error) := by
  cases command with
  | register specs => simp [run] at failed
  | remove commands => exact .inr ⟨commands, rfl, failed⟩
  | print commands =>
      refine .inl ⟨?_, by simp⟩
      cases commands with
      | nil => simp [run] at failed
      | cons command rest => exact (congrArg Prod.fst failed).symm

theorem readFlags_remove (flags : CompleteFlags) (rest : List Text) :
    readFlags flags (Text.of "-r" :: rest) = readFlags { flags with remove := true } rest := by
  rw [readFlags.eq_def]
  rfl

/-- The flag for removal in front of commands removes them. -/
theorem parse_remove {command : Text} (operand : isFlag command = false) (rest : List Text) :
    parse (Text.of "-r" :: command :: rest) = .ok (.remove (command :: rest)) := by
  rw [parse, readFlags_remove, readFlags.eq_def]
  simp only [operand, Bool.not_false, if_true]
  rfl

end CompleteCommand

namespace Builtin

theorem parse?_remove {line command : Text} {rest : List Text}
    (first : line.trimStart.words.head? = some (Text.of "complete"))
    (cut : line.trimStart.splitWords? =
      some (Text.of "complete" :: Text.of "-r" :: command :: rest))
    (operand : isFlag command = false) :
    parse? line = some (.ok (.complete (.remove (command :: rest)))) := by
  rw [parse?_complete first cut, List.drop_one, List.tail_cons,
    CompleteCommand.parse_remove operand]
  rfl

theorem runLine_of_error {registry after : Registry} {host : CompletionHost} {line : Text}
    {error : BuiltinError} (failed : runLine registry host line = (after, some (.error error))) :
    (parse? line = some (.error error) ∧ after = registry) ∨
      ∃ command, parse? line = some (.ok (.complete command)) ∧
        command.run registry = (after, .error error) := by
  simp only [runLine] at failed
  split at failed
  · simp at failed
  next refused parsed =>
    simp only [Prod.mk.injEq, Option.some.injEq, Except.error.injEq] at failed
    obtain ⟨rfl, rfl⟩ := failed
    exact .inl ⟨parsed, rfl⟩
  next command parsed =>
    simp only [Prod.mk.injEq, Option.some.injEq] at failed
    exact .inr ⟨command, parsed, Prod.ext failed.1 failed.2⟩
  · simp at failed

/-- The line removes commands one after the other, and the first of them is known. -/
def BeginsRemoval (registry : Registry) (line : Text) : Prop :=
  ∃ command rest, parse? line = some (.ok (.complete (.remove (command :: rest)))) ∧
    registry.find? command ≠ none

theorem not_beginsRemoval {registry : Registry} {line : Text}
    {answer : Except BuiltinError Builtin} (parsed : parse? line = some answer)
    (other : ∀ commands, answer ≠ .ok (.complete (.remove commands))) :
    ¬ BeginsRemoval registry line := by
  rintro ⟨command, rest, removal, _⟩
  exact other _ (Option.some.inj (parsed.symm.trans removal))

theorem beginsRemoval_iff {registry : Registry} {line command : Text} {rest : List Text}
    (parsed : parse? line = some (.ok (.complete (.remove (command :: rest))))) :
    BeginsRemoval registry line ↔ registry.find? command ≠ none := by
  simp [BeginsRemoval, parsed]

/-- A line that fails leaves the registry as it is, unless it has begun to remove commands. Then the
commands before the one that was not found are gone, and all others are still there. -/
theorem registry_of_failed_line {registry after : Registry} {host : CompletionHost} {line : Text}
    {error : BuiltinError} (failed : runLine registry host line = (after, some (.error error))) :
    (after = registry ↔ ¬ BeginsRemoval registry line) ∧
      (after ≠ registry → ∃ gone missing rest,
        parse? line = some (.ok (.complete (.remove (gone ++ missing :: rest)))) ∧
          error = .notFound missing ∧ after = gone.foldl Registry.erase registry ∧
          after.find? missing = none) := by
  rcases runLine_of_error failed with ⟨refused, rfl⟩ | ⟨command, parsed, ran⟩
  · exact ⟨iff_of_true rfl (not_beginsRemoval refused (by simp)), absurd rfl⟩
  rcases CompleteCommand.run_of_error ran with ⟨rfl, other⟩ | ⟨commands, rfl, removed⟩
  · exact ⟨iff_of_true rfl (not_beginsRemoval parsed (by simpa using other)), absurd rfl⟩
  obtain ⟨gone, missing, rest, cut, refusal⟩ := CompleteCommand.removeAll_of_error removed
  refine ⟨?_, fun _ => ⟨gone, missing, rest, cut ▸ parsed, refusal⟩⟩
  cases commands with
  | nil => simp at cut
  | cons first others =>
      rw [beginsRemoval_iff parsed, Decidable.not_not,
        ← CompleteCommand.removeAll_eq_self_iff registry first others, removed]

/-- A removal whose first command is unknown does not get to the known one behind it. -/
theorem registry_after_refused_removal :
    let host : CompletionHost := ⟨fun _ _ => none, none⟩
    let registry : Registry := ⟨[⟨Text.of "a", .wordList, Text.of "x", []⟩]⟩
    runLine registry host (Text.of "complete -r b a") =
        (registry, some (.error (.notFound (Text.of "b")))) ∧
      ¬ BeginsRemoval registry (Text.of "complete -r b a") := by
  intro host registry
  have parsed : parse? (Text.of "complete -r b a") =
      some (.ok (.complete (.remove [Text.of "b", Text.of "a"]))) :=
    parse?_remove (by decide +kernel) (by decide +kernel) (by decide)
  have failed : runLine registry host (Text.of "complete -r b a") =
      (registry, some (.error (.notFound (Text.of "b")))) := by
    simp only [runLine, parsed]
    rfl
  exact ⟨failed, (registry_of_failed_line failed).1.1 rfl⟩

/-- A removal that fails at its second command has lost the first one. -/
theorem registry_after_begun_removal :
    let host : CompletionHost := ⟨fun _ _ => none, none⟩
    let registry : Registry := ⟨[⟨Text.of "a", .wordList, Text.of "x", []⟩]⟩
    Builtin.runLine .empty host (Text.of "complete -W x a") = (registry, some (.ok [])) ∧
      runLine registry host (Text.of "complete -r a b") =
        (.empty, some (.error (.notFound (Text.of "b")))) ∧ registry ≠ .empty := by
  intro host registry
  let spec : Spec := ⟨Text.of "a", .wordList, Text.of "x", []⟩
  have printed : spec.print = Text.of "complete -W x a" := by decide +kernel
  have registered := (parse?_print_iff spec).2 (by decide)
  rw [printed] at registered
  have parsed : parse? (Text.of "complete -r a b") =
      some (.ok (.complete (.remove [Text.of "a", Text.of "b"]))) :=
    parse?_remove (by decide +kernel) (by decide +kernel) (by decide)
  refine ⟨?_, ?_, by decide⟩
  · simp only [runLine, registered]
    rfl
  · simp only [runLine, parsed]
    rfl

end Builtin

end Promptline
