/-
This file reads and runs the two command lines that manage specifications: `complete` registers,
prints and removes them, and `compgen` lists what an action offers for a word.
-/

import Promptline.Spec.Evaluation

namespace Promptline

/-- The command that a line calls. -/
inductive BuiltinName where
  | complete
  | compgen
  deriving DecidableEq, Repr

/-- Why a command line is refused. -/
inductive BuiltinError where
  | missingOperand (builtin : BuiltinName) (flag : Text)
  | unknownFlag (builtin : BuiltinName) (flag : Text)
  | missingCommand
  | missingAction (builtin : BuiltinName)
  | notFound (command : Text)
  | unterminatedQuote (builtin : BuiltinName)
  deriving DecidableEq, Repr

/-- All commands of a registration share the action and the options. -/
inductive CompleteCommand where
  | register (specs : List Spec)
  /-- Without commands all specifications are printed. -/
  | print (commands : List Text)
  | remove (commands : List Text)
  deriving DecidableEq, Repr

structure CompgenCommand where
  kind : SpecKind
  value : Text
  word : Text
  deriving DecidableEq, Repr

inductive Builtin where
  | complete (command : CompleteCommand)
  | compgen (command : CompgenCommand)
  deriving DecidableEq, Repr

namespace BuiltinName

def text : BuiltinName → Text
  | complete => Text.of "complete"
  | compgen => Text.of "compgen"

def ofWord? (word : Text) : Option BuiltinName :=
  [complete, compgen].find? fun name => name.text = word

end BuiltinName

namespace BuiltinError

def message : BuiltinError → Text
  | missingOperand builtin flag =>
      builtin.text ++ Text.of ": " ++ flag ++ Text.of ": option requires an argument"
  | unknownFlag builtin flag =>
      builtin.text ++ Text.of ": " ++ flag ++ Text.of ": invalid option"
  | missingCommand => Text.of "complete: missing command name"
  | missingAction builtin =>
      builtin.text ++ Text.of ": no completion action (-W, -F or -C) given"
  | notFound command =>
      Text.of "complete: " ++ command ++ Text.of ": no completion specification"
  | unterminatedQuote builtin => builtin.text ++ Text.of ": unterminated quote"

end BuiltinError

/-- An argument is a flag if it starts with a dash and is not the dash alone. -/
def isFlag (word : Text) : Bool := word.head? = some '-' && word ≠ ['-']

/-- The flags of `complete` that have been read. -/
structure CompleteFlags where
  action? : Option (SpecKind × Text)
  options : List Text
  print : Bool
  remove : Bool
  deriving DecidableEq, Repr

namespace CompleteCommand

/-- Flags stand before the first command, and a double dash ends them. -/
def readFlags (flags : CompleteFlags) : List Text → Except BuiltinError (CompleteFlags × List Text)
  | [] => .ok (flags, [])
  | word :: rest =>
      if !isFlag word then .ok (flags, word :: rest)
      else if word = Text.of "--" then .ok (flags, rest)
      else match SpecKind.ofFlag? word with
        | some kind =>
            match rest with
            | [] => .error (.missingOperand .complete word)
            | value :: rest => readFlags { flags with action? := some (kind, value) } rest
        | none =>
            if word = Text.of "-o" then
              match rest with
              | [] => .error (.missingOperand .complete word)
              | option :: rest => readFlags { flags with options := flags.options ++ [option] } rest
            else if word = Text.of "-p" then readFlags { flags with print := true } rest
            else if word = Text.of "-r" then readFlags { flags with remove := true } rest
            else .error (.unknownFlag .complete word)

/-- Removal wins over printing, and a call without any argument prints. -/
def ofFlags (flags : CompleteFlags) (commands : List Text) : Except BuiltinError CompleteCommand :=
  if flags.remove then
    if commands = [] then .error .missingCommand else .ok (.remove commands)
  else if flags.print || (flags.action?.isNone && commands.isEmpty) then .ok (.print commands)
  else match flags.action? with
    | none => .error (.missingAction .complete)
    | some (kind, value) =>
        if commands = [] then .error .missingCommand
        else .ok (.register (commands.map fun command => ⟨command, kind, value, flags.options⟩))

def parse (arguments : List Text) : Except BuiltinError CompleteCommand := do
  let (flags, commands) ← readFlags ⟨none, [], false, false⟩ arguments
  ofFlags flags commands

/-- Commands are removed one after the other, and the first unknown one ends the removal. -/
def removeAll (registry : Registry) : List Text → Registry × Except BuiltinError Text
  | [] => (registry, .ok [])
  | command :: rest =>
      match registry.find? command with
      | none => (registry, .error (.notFound command))
      | some _ => removeAll (registry.erase command) rest

/-- The registry after the command, and what the command prints. -/
def run (registry : Registry) : CompleteCommand → Registry × Except BuiltinError Text
  | register specs => (specs.foldl Registry.insert registry, .ok [])
  | remove commands => removeAll registry commands
  | print [] => (registry, .ok (Text.join ['\n'] (registry.specs.map Spec.print)))
  | print commands =>
      (registry, (commands.mapM fun command =>
        match registry.find? command with
        | some spec => Except.ok spec.print
        | none => .error (BuiltinError.notFound command)).map (Text.join ['\n']))

end CompleteCommand

namespace CompgenCommand

/-- The last word counts, and behind the first one nothing but an action is a flag. -/
def read (action? : Option (SpecKind × Text)) (word? : Option Text) :
    List Text → Except BuiltinError CompgenCommand
  | [] =>
      match action? with
      | none => .error (.missingAction .compgen)
      | some (kind, value) => .ok ⟨kind, value, word?.getD []⟩
  | word :: rest =>
      match SpecKind.ofFlag? word with
      | some kind =>
          match rest with
          | [] => .error (.missingOperand .compgen word)
          | value :: rest => read (some (kind, value)) word? rest
      | none =>
          if isFlag word && word?.isNone then .error (.unknownFlag .compgen word)
          else read action? (some word) rest

def parse (arguments : List Text) : Except BuiltinError CompgenCommand := read none none arguments

/-- The values of the candidates, one on a line. -/
def run (command : CompgenCommand) (host : CompletionHost) : Text :=
  let spec : Spec := ⟨[], command.kind, command.value, []⟩
  Text.join ['\n']
    ((spec.evaluate host (Context.ofWord command.word) .currentWord).map Candidate.value)

end CompgenCommand

namespace Builtin

/-- A line whose first word is neither command is no call of one. -/
def parse? (line : Text) : Option (Except BuiltinError Builtin) := do
  let line := line.trimStart
  let name ← BuiltinName.ofWord? (← line.words.head?)
  return match line.splitWords? with
    | none => .error (.unterminatedQuote name)
    | some words =>
        match name with
        | .complete => (CompleteCommand.parse (words.drop 1)).map .complete
        | .compgen => (CompgenCommand.parse (words.drop 1)).map .compgen

/-- The registry after a line, and what the line prints if it is a call. -/
def runLine (registry : Registry) (host : CompletionHost) (line : Text) :
    Registry × Option (Except BuiltinError Text) :=
  match parse? line with
  | none => (registry, none)
  | some (.error error) => (registry, some (.error error))
  | some (.ok (.complete command)) =>
      let (registry, answer) := command.run registry
      (registry, some answer)
  | some (.ok (.compgen command)) => (registry, some (.ok (command.run host)))

end Builtin

end Promptline
