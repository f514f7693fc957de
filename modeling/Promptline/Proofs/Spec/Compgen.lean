/-
This file says what a list of words gives for a word on a command line. The line answers what the
specification of the list offers for the word, unless the word is read as a flag.
-/

import Promptline.Proofs.Spec.Reentry

namespace Promptline

namespace CompgenCommand

/-- Why a word that looks like a flag is refused. -/
def refusal (word : Text) : BuiltinError :=
  if (SpecKind.ofFlag? word).isSome then .missingOperand .compgen word
  else .unknownFlag .compgen word

theorem isFlag_of_ofFlag? {word : Text} {kind : SpecKind}
    (action : SpecKind.ofFlag? word = some kind) : isFlag word = true := by
  obtain rfl := SpecKind.flag_of_ofFlag? action
  cases kind <;> rfl

theorem read_action (action? : Option (SpecKind × Text)) (word? : Option Text) (kind : SpecKind)
    (value : Text) (rest : List Text) :
    read action? word? (kind.flag :: value :: rest) = read (some (kind, value)) word? rest := by
  cases kind <;> (rw [read.eq_def]; rfl)

/-- The only word behind an action counts, unless it looks like a flag. -/
theorem parse_action (kind : SpecKind) (value word : Text) :
    parse [kind.flag, value, word] =
      if isFlag word then .error (refusal word) else .ok ⟨kind, value, word⟩ := by
  rw [parse, read_action, read.eq_def, refusal]
  cases action : SpecKind.ofFlag? word with
  | some other => simp [action, isFlag_of_ofFlag? action]
  | none => cases flag : isFlag word <;> simp [action, flag, read]

end CompgenCommand

namespace Builtin

/-- The command line that asks for what an action offers for a word. -/
def compgenLine (kind : SpecKind) (value word : Text) : Text :=
  Text.of "compgen " ++ kind.flag ++ Text.of " " ++ value.quote ++ Text.of " " ++ word.quote

theorem splitWords?_compgenLine (kind : SpecKind) (value word : Text) :
    (compgenLine kind value word).splitWords? =
      some [Text.of "compgen", kind.flag, value, word] := by
  have plain : (Text.of "compgen").quote = Text.of "compgen" ∧ kind.flag.quote = kind.flag := by
    cases kind <;> decide
  have quoted : compgenLine kind value word =
      Text.join [' '] ([Text.of "compgen", kind.flag, value, word].map Text.quote) := by
    simp only [compgenLine, List.map_cons, List.map_nil, plain, Text.join, List.flatMap_cons,
      List.flatMap_nil, List.append_assoc, List.append_nil]
    rfl
  rw [quoted, Text.splitWords?, Text.splitFrom?_join_quote]
  rfl

theorem parse?_compgenLine (kind : SpecKind) (value word : Text) :
    parse? (compgenLine kind value word) =
      some ((CompgenCommand.parse [kind.flag, value, word]).map .compgen) := by
  obtain ⟨rest, shape⟩ : ∃ rest, compgenLine kind value word = Text.of "compgen" ++ ' ' :: rest :=
    ⟨kind.flag ++ Text.of " " ++ value.quote ++ Text.of " " ++ word.quote, by
      simp only [compgenLine, List.append_assoc]
      rfl⟩
  have trimmed : (compgenLine kind value word).trimStart = compgenLine kind value word := by
    rw [shape]
    rfl
  have solid : (Text.of "compgen").IsWord := by decide
  have first : (compgenLine kind value word).words.head? = some (Text.of "compgen") := by
    rw [shape, Text.words, Text.pieces_append_cons solid rfl]
    rfl
  simp only [parse?, trimmed, first, splitWords?_compgenLine]
  rfl

/-- What the action offers comes out, one candidate on a line, unless the word looks like a flag. -/
theorem runLine_compgenLine (registry : Registry) (host : CompletionHost) (kind : SpecKind)
    (value word : Text) :
    runLine registry host (compgenLine kind value word) = (registry, some
      (if isFlag word then .error (CompgenCommand.refusal word)
        else .ok (CompgenCommand.run ⟨kind, value, word⟩ host))) := by
  simp only [runLine, parse?_compgenLine, CompgenCommand.parse_action]
  cases isFlag word <;> rfl

end Builtin

/-- A list of words offers those that start with the completed word, whoever asks. -/
theorem Spec.evaluate_wordList {spec : Spec} (listed : spec.kind = .wordList)
    (host : CompletionHost) (context : Context) (filter : ReplyFilter) :
    spec.evaluate host context filter =
      (matchingWords spec.value context.word).map Candidate.ofValue := by
  simp only [evaluate, listed]

theorem CompgenCommand.run_wordList (list word : Text) (host : CompletionHost) :
    run ⟨.wordList, list, word⟩ host = Text.join ['\n'] (Spec.matchingWords list word) := by
  have values : Candidate.value ∘ Candidate.ofValue = id := rfl
  rw [run, Spec.evaluate_wordList rfl, List.map_map, values, List.map_id]
  rfl

/-- The line for a list of words gives exactly the words of the list that start with the word, which
are the candidates of the specification of the list for this word. Only a word that looks like a
flag is refused. -/
theorem Builtin.runLine_wordList (registry : Registry) (host : CompletionHost) (list word : Text) :
    let line := Text.of "compgen -W " ++ list.quote ++ Text.of " " ++ word.quote
    let offered := list.words.filter fun candidate => candidate.startsWith word
    runLine registry host line = (registry, some
        (if isFlag word then .error (CompgenCommand.refusal word)
          else .ok (Text.join ['\n'] offered))) ∧
      ∀ (spec : Spec) (context : Context) (filter : ReplyFilter), spec.kind = .wordList →
        spec.value = list → context.word = word →
          spec.evaluate host context filter = offered.map Candidate.ofValue := by
  intro line offered
  have shape : line = compgenLine .wordList list word := by
    simp only [line, compgenLine, List.append_assoc]
    rfl
  refine ⟨?_, fun spec context filter listed same asked => ?_⟩
  · rw [shape, runLine_compgenLine, CompgenCommand.run_wordList]
    rfl
  · rw [Spec.evaluate_wordList listed, same, asked]
    rfl

/-- A word of the list that looks like a flag is offered, but the line that asks for it is
refused. -/
theorem Builtin.runLine_wordList_of_flag :
    let host : CompletionHost := ⟨fun _ _ => none, none⟩
    let list := Text.of "-a -b"
    let word := Text.of "-a"
    let line := Text.of "compgen -W " ++ list.quote ++ Text.of " " ++ word.quote
    let offered := list.words.filter fun candidate => candidate.startsWith word
    line = Text.of "compgen -W '-a -b' -a" ∧ offered = [word] ∧
      runLine .empty host line = (.empty, some (.error (.unknownFlag .compgen word))) ∧
      runLine .empty host line ≠ (.empty, some (.ok (Text.join ['\n'] offered))) := by
  intro host list word line offered
  have shape : line = compgenLine .wordList list word := by decide +kernel
  have refused : runLine .empty host line =
      (.empty, some (.error (.unknownFlag .compgen word))) := by
    rw [shape, runLine_compgenLine]
    rfl
  refine ⟨by decide +kernel, by decide +kernel, refused, ?_⟩
  rw [refused]
  simp

end Promptline
