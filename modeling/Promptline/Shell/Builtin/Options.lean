/-
This file reads the options of builtins and the numbers among their arguments.
-/

import Promptline.Shell.State
import Promptline.Program.Integer

namespace Promptline.Shell

/-- A builtin gets its arguments and gives a status. -/
abbrev Builtin := List Text → Run Nat

namespace Builtin

open Run

/-- The letters of options, and those among them that a value follows. -/
structure OptionLetters where
  plain : List Char
  valued : List Char

/-- The options in front, with their values, and the arguments behind them. -/
def options (letters : OptionLetters) : List Text → Run (List (Char × Text) × List Text)
  | [] => return ([], [])
  | word :: rest =>
      match word with
      | ['-', '-'] => return ([], rest)
      | '-' :: c :: more => group (c :: more) rest
      | _ => return ([], word :: rest)
where
  group : Text → List Text → Run (List (Char × Text) × List Text)
    | [], rest => options letters rest
    | c :: more, rest => do
        if letters.plain.contains c then
          let (found, rest) ← group more rest
          return ((c, []) :: found, rest)
        else if letters.valued.contains c then
          match more, rest with
          | [], value :: rest =>
              let (found, rest) ← options letters rest
              return ((c, value) :: found, rest)
          | [], [] => fail (Text.of "No arg for -" ++ [c] ++ Text.of " option")
          | value, rest =>
              let (found, rest) ← options letters rest
              return ((c, value) :: found, rest)
        else fail (Text.of "Illegal option -" ++ [c])

/-- The arguments behind the options of a builtin that has none. -/
def operands (arguments : List Text) : Run (List Text) := do
  return (← options ⟨[], []⟩ arguments).2

def isDigits (text : Text) : Bool := text ≠ [] && text.all Char.isDigit

/-- A number that is not negative. -/
def number (text : Text) : Run Nat := do
  match Integer.ofText? (some 10) text with
  | some n => if 0 ≤ n ∧ n < 2147483648 then return n.toNat else illegalNumber text
  | none => illegalNumber text

/-- The text in single quotes, where those in the text stand in double ones. -/
def singleQuoted (text : Text) : Text :=
  let pieces := Text.pieces (· = '\'') text
  Text.join (Text.of "\"'\"") (pieces.map fun piece => '\'' :: piece ++ ['\''])

def put (text : Text) : Run Nat := work (Work.put text)

end Builtin

end Promptline.Shell
