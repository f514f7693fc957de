/-
This file defines how programs are called, and what a program leaves behind: the bytes that it has
written, how it has ended and the time that it took.
-/

import Promptline.Program.Signal

namespace Promptline

/-- A program ends by itself or by a signal. -/
inductive Ending where
  | exit (code : Nat)
  | signal (number : Nat)
  deriving DecidableEq, Repr

namespace Ending

def success : Ending := exit 0

/-- A signal is named if it has a name of its own. -/
def message : Ending → Text
  | exit code => Text.of "exit status: " ++ Text.ofNat code
  | signal number =>
      Text.of "signal: " ++ Text.ofNat number ++
        match Signal.name? number with
        | some name => Text.of " (SIG" ++ name ++ [')']
        | none => []

/-- The status that scripts see. -/
def status : Ending → Nat
  | exit code => code
  | signal number => 128 + number

end Ending

structure Outcome where
  output : List UInt8
  ending : Ending
  /-- The time in microseconds. -/
  elapsed : Nat
  deriving DecidableEq, Repr

/-- A call of a program, which has no input. -/
structure Call where
  name : Text
  arguments : List Text
  /-- The variables that it gets besides those of every program, in order. -/
  environment : List (Text × Text)
  deriving DecidableEq, Repr

/-- What the programs of a machine do when they are called. A program that cannot be started leaves
the fault that the machine reports, and one that never ends leaves nothing. -/
abbrev Programs := Call → Except Text (Option Outcome)

end Promptline
