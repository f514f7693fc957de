/-
This file defines the programs that write their arguments, test conditions, or only take time.
-/

import Promptline.Program.Condition
import Promptline.Program.Format
import Promptline.Program.Tool.Options

namespace Promptline.Tool

/-- The escapes of the echo program, which asks for them with an option. -/
def echoEscapes : EscapeRules := ⟨true, true, false, true⟩

/-- An option of the echo program is a dash with letters, all of them known. -/
def isEchoOption (word : Text) : Bool :=
  match word with
  | '-' :: c :: rest => (c :: rest).all "neE".toList.contains
  | _ => false

/-- The last of the letters for escapes counts. -/
def wantsEscapes (letters : Text) : Bool :=
  (letters.filter fun c => c ≠ 'n').getLast? = some 'e'

/-- The echo program takes its options from the front of the arguments. -/
def echo : Tool := fun arguments => do
  let letters := (arguments.takeWhile isEchoOption).flatMap fun word => word.drop 1
  let text := Text.join [' '] (arguments.dropWhile isEchoOption)
  let unescaped : Unescaped :=
    if wantsEscapes letters then echoEscapes.decode text else ⟨text, false, false⟩
  Work.put (if unescaped.stopped || letters.contains 'n' then unescaped.text
    else unescaped.text ++ ['\n'])

/-- A fault ends the program, and arguments that are no numbers make it end with a code. -/
def printf : Tool := fun arguments => do
  let arguments := if arguments.head? = some ['-', '-'] then arguments.drop 1 else arguments
  match arguments with
  | [] => missingOperand "printf" 1
  | format :: arguments => do
      let progress := Format.print .ofProgram format arguments
      let status ← Work.put progress.output
      if progress.faulty then return 1
      return if progress.complete || progress.stopped then status else 1

def conditionCode (words : List Text) : Work Nat := do
  let surroundings : Surroundings := ⟨(← getThe Machine).files, (← read).directory⟩
  match Condition.ofProgram surroundings words with
  | .ok value => return if value then 0 else 1
  | .error _ => return 2

def test : Tool := conditionCode

/-- The condition stands between brackets. -/
def bracket : Tool := fun arguments => do
  if arguments.getLast? = some [']'] then conditionCode arguments.dropLast
  else fail "[" (Text.of "missing " ++ quoted [']']) 2

/-- The number of microseconds in a unit of time. -/
def unit? : Text → Option Nat
  | [] | ['s'] => some 1000000
  | ['m'] => some 60000000
  | ['h'] => some 3600000000
  | ['d'] => some 86400000000
  | _ => none

/-- The microseconds of a time, where an infinite one has no number. -/
def microseconds? (argument : Text) : Option (Option Nat) := do
  let reading ← Real.read? argument
  let unit ← unit? reading.rest
  match reading.real with
  | .finite false numerator denominator => return some (numerator * unit / denominator)
  | .finite true 0 _ => return some 0
  | .infinite false => return none
  | _ => none

/-- The times are added up. -/
def sleep : Tool := fun arguments => do
  match arguments.mapM microseconds? with
  | none =>
      let invalid := arguments.filter fun word => (microseconds? word).isNone
      for word in invalid.dropLast do
        discard (fail "sleep" (Text.of "invalid time interval " ++ quoted word) 1)
      refuse "sleep" (Text.of "invalid time interval " ++ quoted (invalid.getLast?.getD [])) 1
  | some [] => missingOperand "sleep" 1
  | some times =>
      match times.mapM id with
      | some times => do
          Work.pause (times.foldr Nat.add 0)
          return 0
      | none => throw .never

/-- A text is written again and again. -/
def yes : Tool := withOptions "yes" ⟨[], [], []⟩ 1 fun given => do
  let words := given.operands
  let line := (if words = [] then ['y'] else Text.join [' '] words) ++ ['\n']
  Work.pour ⟨(List.replicate (Machine.endlessSize / 4 / line.length) line).flatten, true⟩

/-- The values of variables, each followed by a line end or a zero. -/
def printenv : Tool := fun arguments => do
  let isOption (word : Text) : Bool := word = Text.of "-0" || word = Text.of "--null"
  let zero := (arguments.takeWhile fun word => word.head? = some '-').any isOption
  let names := arguments.dropWhile fun word => isOption word || word = ['-', '-']
  let environment := (← read).environment
  let terminator := if zero then '\x00' else '\n'
  if (names.head?.bind List.head?) = some '-' then return 2
  if names = [] then
    Work.put (environment.flatMap fun (name, value) => name ++ '=' :: value ++ [terminator])
  else do
    let values := names.map fun name => environment.lookup name
    discard (Work.put ((values.filterMap id).flatMap fun value => value ++ [terminator]))
    return if values.all Option.isSome then 0 else 1

end Promptline.Tool
