/-
This file runs completer programs. A program gets the words of its command line and then the
arguments of the context, and a run counts only if it succeeds in time and writes UTF-8.
-/

import Promptline.Program.Outcome
import Promptline.Spec.Context
import Promptline.Text.Bytes

namespace Promptline

/-- Why a program cannot be started. -/
inductive StartFailure where
  /-- The machine reports a fault. -/
  | refused (fault : Text)
  /-- No argument and no variable may hold the character with the number zero. -/
  | zeroCharacter
  deriving DecidableEq, Repr

inductive CompleterError where
  | emptyCommand
  | start (program : Text) (failure : StartFailure)
  | timeout (program : Text) (patience : Nat)
  | unsuccessful (program : Text) (ending : Ending)
  | notUtf8 (program : Text)
  deriving DecidableEq, Repr

/-- Whole milliseconds are printed in the largest unit, without zeros at the end of a fraction. -/
def durationText (milliseconds : Nat) : Text :=
  if milliseconds = 0 then Text.of "0ns"
  else if milliseconds < 1000 then Text.ofNat milliseconds ++ Text.of "ms"
  else
    let digits := (List.replicate 3 '0' ++ Text.ofNat (milliseconds % 1000)).reverse.take 3
    let fraction := (digits.dropWhile (· = '0')).reverse
    Text.ofNat (milliseconds / 1000) ++ (if fraction = [] then [] else '.' :: fraction) ++ ['s']

namespace StartFailure

def message : StartFailure → Text
  | refused fault => fault
  | zeroCharacter => Text.of "nul byte found in provided data"

end StartFailure

namespace CompleterError

def named (program : Text) : Text := Text.of "completer \x60" ++ program ++ Text.of "\x60 "

def message : CompleterError → Text
  | emptyCommand => Text.of "empty completer command"
  | start program failure =>
      Text.of "failed to spawn completer \x60" ++ program ++ Text.of "\x60: " ++ failure.message
  | timeout program patience =>
      named program ++ Text.of "timed out after " ++ durationText patience
  | unsuccessful program ending => named program ++ Text.of "exited with " ++ ending.message
  | notUtf8 program => named program ++ Text.of "wrote non-UTF-8 output"

end CompleterError

namespace Completer

/-- A completer gets its own arguments in front of those of the context. -/
def call (name : Text) (arguments : List Text) (context : Context) : Call :=
  ⟨name, arguments ++ context.arguments, context.environment⟩

/-- A program is started with its arguments and variables. -/
def start (programs : Programs) (call : Call) : Except StartFailure (Option Outcome) :=
  if (call.name :: call.arguments ++ call.environment.map Prod.snd).any fun text =>
      text.contains '\x00' then
    .error .zeroCharacter
  else (programs call).mapError .refused

/-- The output of a program that has run in time and without a fault. -/
def judge (program : Text) (patience : Nat) (outcome? : Option Outcome) :
    Except CompleterError Text :=
  match outcome? with
  | none => .error (.timeout program patience)
  | some outcome =>
      if patience * 1000 ≤ outcome.elapsed then .error (.timeout program patience)
      else if outcome.ending ≠ .success then .error (.unsuccessful program outcome.ending)
      else match Text.ofUtf8? outcome.output with
        | some text => .ok text
        | none => .error (.notUtf8 program)

/-- The output of a completer program in a context. -/
def run (programs : Programs) (patience : Nat) (program : Text) (context : Context) :
    Except CompleterError Text :=
  match program.words with
  | [] => .error .emptyCommand
  | name :: arguments =>
      match start programs (call name arguments context) with
      | .error failure => .error (.start program failure)
      | .ok outcome? => judge program patience outcome?

end Completer

end Promptline
