/-
This file defines the builtins that write their arguments and that test conditions.
-/

import Promptline.Program.Condition
import Promptline.Program.Format
import Promptline.Shell.Builtin.Options

namespace Promptline.Shell.Builtin

open Run

/-- The arguments with blanks between them, up to one that ends the output. -/
def echoText : List Text → Text × Bool
  | [] => ([], false)
  | argument :: rest =>
      let unescaped := Format.Rules.ofShell.argumentEscapes.decode argument
      if unescaped.stopped then (unescaped.text, true)
      else if rest = [] then (unescaped.text, false)
      else
        let (text, stopped) := echoText rest
        (unescaped.text ++ ' ' :: text, stopped)

/-- A failed write is reported. -/
def putOrComplain (text : Text) : Run Nat := do
  let status ← put text
  if status ≠ 0 then complain (Text.of "I/O error")
  return status

def echo : Builtin := fun arguments => do
  let (plain, arguments) :=
    match arguments with
    | ['-', 'n'] :: rest => (true, rest)
    | arguments => (false, arguments)
  let (text, stopped) := echoText arguments
  putOrComplain (if plain || stopped then text else text ++ ['\n'])

/-- Arguments that are no numbers are a fault, after everything has been written. -/
def printf : Builtin := fun arguments => do
  match ← operands arguments with
  | [] => fail (Text.of "usage: printf format [arg ...]")
  | format :: arguments => do
      let progress := Format.print .ofShell format arguments
      let status ← putOrComplain progress.output
      if progress.faulty then fail (Text.of "missing format character")
      return if progress.complete then status else 1

/-- The status of a condition. -/
def judge (words : List Text) : Run Nat := do
  let session ← session
  let surroundings : Surroundings := ⟨(← machine).files, session.directory⟩
  match Condition.ofShell surroundings words with
  | .ok value => return if value then 0 else 1
  | .error fault =>
      match fault with
      | .expectedArgument => fail (Text.of "argument expected")
      | .expectedClose => fail (Text.of "closing paren expected")
      | .unexpectedOperator => fail (words.headD [] ++ Text.of ": unexpected operator")
      | .illegalNumber text => illegalNumber text

def test : Builtin := judge

/-- The condition stands between brackets. -/
def bracket : Builtin := fun arguments => do
  if arguments.getLast? = some [']'] then judge arguments.dropLast
  else fail (Text.of "missing ]")

end Promptline.Shell.Builtin
