/-
This file reads printed specifications back. A printed line enters its specification again unless
the command looks like a flag, since no double dash is printed in front of the command.
-/

import Promptline.Proofs.Spec.Ordering
import Promptline.Proofs.Text.Boundary
import Promptline.Proofs.Text.Quoting

namespace Promptline

namespace Spec

/-- The words of the printed form. -/
def words (spec : Spec) : List Text :=
  Text.of "complete" :: (spec.options.flatMap fun option => [Text.of "-o", option]) ++
    [spec.kind.flag, spec.value, spec.command]

theorem print_eq_join (spec : Spec) : spec.print = Text.join [' '] (spec.words.map Text.quote) := by
  have plain : (Text.of "complete").quote = Text.of "complete" ∧
      (Text.of "-o").quote = Text.of "-o" := by decide
  have flag : spec.kind.flag.quote = spec.kind.flag := by cases spec.kind <;> decide
  simp only [print, words, List.map_append, List.map_cons, List.map_nil, List.map_flatMap, plain,
    flag]

theorem splitWords?_print (spec : Spec) : spec.print.splitWords? = some spec.words := by
  rw [Text.splitWords?, print_eq_join, Text.splitFrom?_join_quote]
  rfl

end Spec

theorem SpecKind.flag_of_ofFlag? {word : Text} {kind : SpecKind}
    (action : ofFlag? word = some kind) : kind.flag = word := by
  simpa using List.find?_some action

namespace CompleteCommand

theorem readFlags_option (flags : CompleteFlags) (option : Text) (rest : List Text) :
    readFlags flags (Text.of "-o" :: option :: rest) =
      readFlags { flags with options := flags.options ++ [option] } rest := by
  rw [readFlags.eq_def]
  rfl

theorem readFlags_action (flags : CompleteFlags) (kind : SpecKind) (value : Text)
    (rest : List Text) :
    readFlags flags (kind.flag :: value :: rest) =
      readFlags { flags with action? := some (kind, value) } rest := by
  cases kind <;> (rw [readFlags.eq_def]; rfl)

theorem readFlags_options (flags : CompleteFlags) (options rest : List Text) :
    readFlags flags ((options.flatMap fun option => [Text.of "-o", option]) ++ rest) =
      readFlags { flags with options := flags.options ++ options } rest := by
  induction options generalizing flags with
  | nil => simp only [List.flatMap_nil, List.nil_append, List.append_nil]
  | cons option options inductionHypothesis =>
      simp only [List.flatMap_cons, List.cons_append, List.nil_append, readFlags_option,
        inductionHypothesis, List.append_assoc]

/-- The words of a printed form give its options, its action and then the command alone. -/
theorem parse_words (spec : Spec) :
    parse (spec.words.drop 1) =
      (readFlags ⟨some (spec.kind, spec.value), spec.options, false, false⟩ [spec.command]).bind
        fun (flags, commands) => ofFlags flags commands := by
  have words : spec.words.drop 1 = (spec.options.flatMap fun option => [Text.of "-o", option]) ++
      [spec.kind.flag, spec.value, spec.command] := rfl
  rw [parse, words, readFlags_options, readFlags_action]
  rfl

theorem parse_words_of_name {spec : Spec} (name : isFlag spec.command = false) :
    parse (spec.words.drop 1) = .ok (.register [spec]) := by
  rw [parse_words, readFlags.eq_def]
  simp only [name, Bool.not_false, if_true]
  rfl

/-- A command that looks like a flag is read as one, and then no command is left. -/
theorem parse_words_of_flag {spec : Spec} (flag : isFlag spec.command = true) :
    parse (spec.words.drop 1) = .ok (.print []) ∨
      ∃ error, parse (spec.words.drop 1) = .error error := by
  rw [parse_words, readFlags.eq_def]
  simp only [flag, Bool.not_true, Bool.false_eq_true, if_false]
  split
  · exact .inr ⟨.missingCommand, rfl⟩
  · split
    next kind _ => exact .inr ⟨.missingOperand .complete spec.command, rfl⟩
    · split
      · exact .inr ⟨.missingOperand .complete spec.command, rfl⟩
      · split
        · exact .inl rfl
        · split
          · exact .inr ⟨.missingCommand, rfl⟩
          · exact .inr ⟨.unknownFlag .complete spec.command, rfl⟩

end CompleteCommand

namespace Builtin

/-- A call is read word by word behind its name. -/
theorem parse?_complete {line : Text} {words : List Text}
    (first : line.trimStart.words.head? = some (Text.of "complete"))
    (cut : line.trimStart.splitWords? = some words) :
    parse? line = some ((CompleteCommand.parse (words.drop 1)).map .complete) := by
  simp only [parse?, first, cut]
  rfl

theorem parse?_print (spec : Spec) :
    parse? spec.print = some ((CompleteCommand.parse (spec.words.drop 1)).map .complete) := by
  obtain ⟨rest, shape⟩ : ∃ rest, spec.print = Text.of "complete" ++ ' ' :: rest := by
    rw [Spec.print]
    cases spec.options with
    | nil => exact ⟨_, rfl⟩
    | cons option others => exact ⟨_, rfl⟩
  have trimmed : spec.print.trimStart = spec.print := by
    rw [shape]
    rfl
  have solid : (Text.of "complete").IsWord := by decide
  have first : spec.print.words.head? = some (Text.of "complete") := by
    rw [shape, Text.words, Text.pieces_append_cons solid rfl]
    rfl
  refine parse?_complete ?_ ?_
  · rw [trimmed, first]
  · rw [trimmed, Spec.splitWords?_print]

/-- A printed form enters its specification, and only a command that looks like a flag keeps it
from that. -/
theorem parse?_print_iff (spec : Spec) :
    parse? spec.print = some (.ok (.complete (.register [spec]))) ↔
      isFlag spec.command = false := by
  rw [parse?_print]
  cases flag : isFlag spec.command with
  | false =>
      rw [CompleteCommand.parse_words_of_name flag]
      simp [Except.map]
  | true =>
      rcases CompleteCommand.parse_words_of_flag flag with printed | ⟨error, refused⟩
      · rw [printed]
        simp [Except.map]
      · rw [refused]
        simp [Except.map]

/-- A printed form that does not enter its specification leaves the registry alone. -/
theorem runLine_print (registry : Registry) (host : CompletionHost) (spec : Spec) :
    (runLine registry host spec.print).1 =
      if isFlag spec.command then registry else registry.insert spec := by
  simp only [runLine, parse?_print]
  cases flag : isFlag spec.command with
  | false =>
      rw [CompleteCommand.parse_words_of_name flag]
      rfl
  | true =>
      rcases CompleteCommand.parse_words_of_flag flag with printed | ⟨error, refused⟩
      · rw [printed]
        rfl
      · rw [refused]
        rfl

/-- The registry after some lines. -/
def runLines (registry : Registry) (host : CompletionHost) (lines : List Text) : Registry :=
  lines.foldl (fun registry line => (runLine registry host line).1) registry

theorem runLines_print (registry : Registry) (host : CompletionHost) (specs : List Spec) :
    runLines registry host (specs.map Spec.print) =
      (specs.filter fun spec => !isFlag spec.command).foldl Registry.insert registry := by
  induction specs generalizing registry with
  | nil => rfl
  | cons spec specs inductionHypothesis =>
      have later := inductionHypothesis (runLine registry host spec.print).1
      rw [runLine_print] at later
      simp only [runLines, List.map_cons, List.foldl_cons, runLine_print] at later ⊢
      rw [later]
      cases flag : isFlag spec.command <;> simp [flag]

end Builtin

/-- Every printed form enters its specification again, in any order of the lines, apart from those
whose command looks like a flag. -/
theorem Registry.Reachable.reentered {registry : Registry} (reachable : registry.Reachable) :
    (∀ spec ∈ registry.specs,
      Builtin.parse? spec.print = some (.ok (.complete (.register [spec]))) ↔
        isFlag spec.command = false) ∧
      ∀ specs : List Spec, specs.Perm registry.specs → ∀ host : CompletionHost,
        let rebuilt := Builtin.runLines .empty host (specs.map Spec.print)
        rebuilt.specs = registry.specs.filter (fun spec => !isFlag spec.command) ∧
          (rebuilt = registry ↔ ∀ spec ∈ registry.specs, isFlag spec.command = false) := by
  refine ⟨fun spec _ => Builtin.parse?_print_iff spec, fun specs perm host => ?_⟩
  intro rebuilt
  have ordered := reachable.ordered
  have distinct : registry.specs.Pairwise fun first second => first.command ≠ second.command := by
    refine ordered.imp fun {first second} smaller same => ?_
    rw [same] at smaller
    exact List.lt_irrefl _ smaller
  have named : (specs.filter fun spec => !isFlag spec.command).Perm
      (registry.specs.filter fun spec => !isFlag spec.command) := perm.filter _
  have inserted : rebuilt = (specs.filter fun spec => !isFlag spec.command).foldl
      Registry.insert .empty := Builtin.runLines_print _ _ _
  have held : rebuilt.specs.Perm (specs.filter fun spec => !isFlag spec.command) := by
    have apart := (named.pairwise_iff fun other => Ne.symm other).2 (distinct.filter _)
    have unknown : ∀ spec ∈ specs.filter (fun spec => !isFlag spec.command),
        ∀ other ∈ Registry.empty.specs, spec.command ≠ other.command := by
      simp [Registry.empty]
    have perm := Registry.perm_insertAll apart unknown
    rw [← inserted] at perm
    simpa only [Registry.empty, List.append_nil] using perm
  have kept : rebuilt = ⟨registry.specs.filter fun spec => !isFlag spec.command⟩ := by
    refine Registry.eq_of_perm ?_ (ordered.filter _) (held.trans named)
    rw [inserted]
    exact Registry.ordered_insertAll _ .nil
  refine ⟨congrArg Registry.specs kept, ?_⟩
  rw [kept]
  constructor
  · intro same
    have unfiltered := congrArg Registry.specs same
    simpa using List.filter_eq_self.1 unfiltered
  · intro names
    have unfiltered : registry.specs.filter (fun spec => !isFlag spec.command) = registry.specs :=
      List.filter_eq_self.2 fun spec member => by simp [names spec member]
    rw [unfiltered]

/-- Commands without characters, with a quote and of a dash alone are read back. -/
theorem Registry.reentered_with_odd_commands :
    let host : CompletionHost := ⟨fun _ _ => none, none⟩
    let registry := (Builtin.runLine .empty host
      (Text.of "complete -o nospace -W 'a  b' '' it\\'s -")).1
    let rebuilt := Builtin.runLines .empty host (registry.specs.reverse.map Spec.print)
    registry.Reachable ∧ registry.specs.reverse.Perm registry.specs ∧
      registry.commands = [[], Text.of "-", Text.of "it's"] ∧ rebuilt = registry ∧
      ∀ spec ∈ registry.specs,
        Builtin.parse? spec.print = some (.ok (.complete (.register [spec]))) := by
  intro host registry rebuilt
  have reachable : registry.Reachable := .runLine .empty host _
  have perm : registry.specs.reverse.Perm registry.specs := List.reverse_perm _
  have commands : registry.commands = [[], Text.of "-", Text.of "it's"] := by decide +kernel
  have names : ∀ spec ∈ registry.specs, isFlag spec.command = false := by decide +kernel
  obtain ⟨entered, again⟩ := reachable.reentered
  exact ⟨reachable, perm, commands, (again _ perm host).2.2 names,
    fun spec member => (entered spec member).2 (names spec member)⟩

/-- A double dash lets a line register a command that its printed form then lacks. -/
theorem Registry.not_reentered_with_flag :
    let host : CompletionHost := ⟨fun _ _ => none, none⟩
    let registry := (Builtin.runLine .empty host (Text.of "complete -W x -- -foo")).1
    let spec : Spec := ⟨Text.of "-foo", .wordList, Text.of "x", []⟩
    registry.Reachable ∧ registry.specs = [spec] ∧ spec.print = Text.of "complete -W x -foo" ∧
      Builtin.parse? spec.print = some (.error (.unknownFlag .complete (Text.of "-foo"))) ∧
      Builtin.runLines .empty host [spec.print] = .empty := by
  intro host registry spec
  refine ⟨.runLine .empty host _, by decide +kernel, by decide +kernel, ?_, by decide +kernel⟩
  rw [Builtin.parse?_print]
  rfl

end Promptline
