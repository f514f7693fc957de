/-
This file defines the programs that count and that find factors.
-/

import Promptline.Program.Format
import Promptline.Program.Tool.Options

namespace Promptline.Tool

/-- A decimal number and the number of its places. -/
structure Decimal where
  numerator : Int
  places : Nat
  deriving DecidableEq, Repr

namespace Decimal

/-- The number that a whole text stands for. -/
def read? (text : Text) : Option Decimal := do
  let (negative, unsigned) :=
    match text.dropWhile Integer.isBlank with
    | '-' :: rest => (true, rest)
    | '+' :: rest => (false, rest)
    | rest => (false, rest)
  let (whole, fraction, rest) ← Real.digits? 10 unsigned
  let (power, rest) := Real.exponent 'e' rest
  if rest ≠ [] ∨ 1000 < power.natAbs then none
  let places : Int := fraction.length - power
  let size : Int := Integer.natural 10 (whole ++ fraction) * Nat.pow 10 (-places).toNat
  return ⟨if negative then -size else size, places.toNat⟩

/-- The numerator with the given number of places. -/
def scaled (number : Decimal) (places : Nat) : Int :=
  number.numerator * (Nat.pow 10 (places - number.places) : Int)

/-- The text of a numerator with a number of places. -/
def text (places : Nat) (numerator : Int) : Text :=
  let digits := Real.padded (places + 1) numerator.natAbs
  let whole := digits.length - places
  (if numerator < 0 then ['-'] else []) ++
    Real.withPoint false (digits.take whole) (digits.drop whole)

end Decimal

/-- How many numbers lie between the first and the last one. -/
def countOf (first size last : Int) : Nat :=
  if 0 < size then (if last < first then 0 else ((last - first) / size + 1).toNat)
  else if first < last then 0 else ((first - last) / -size + 1).toNat

/-- A number with zeros in front up to a width. -/
def widened (width : Nat) (text : Text) : Text :=
  match text with
  | '-' :: digits => '-' :: List.replicate (width - 1 - digits.length) '0' ++ digits
  | digits => List.replicate (width - digits.length) '0' ++ digits

/-- The options of the program that counts stand in front of the numbers, which may be negative. -/
def countRequest (given : Given) : List Text → Option Given
  | [] => some given
  | word :: rest =>
      match word, rest with
      | ['-', '-'], rest => some { given with operands := rest }
      | '-' :: c :: more, rest =>
          if c.isDigit ∨ c = '.' then some { given with operands := word :: rest }
          else if String.ofList word = "-w" ∨ String.ofList word = "--equal-width" then
            countRequest (given.addOption 'w' []) rest
          else if c = 's' ∨ c = 'f' then
            match more, rest with
            | [], value :: rest => countRequest (given.addOption c value) rest
            | [], [] => none
            | value, rest => countRequest (given.addOption c value) rest
          else match Text.splitAt? '=' word with
            | some (name, value) =>
                match String.ofList name with
                | "--separator" => countRequest (given.addOption 's' value) rest
                | "--format" => countRequest (given.addOption 'f' value) rest
                | _ => none
            | none => none
      | _, _ => some { given with operands := word :: rest }

/-- A format has exactly one directive, for a real number. -/
def isRealFormat (format : Text) : Bool :=
  let directives := (Format.parts .ofProgram format).filterMap fun
    | .directive directive => some directive
    | _ => none
  match directives with
  | [directive] => ['a', 'e', 'f', 'g', 'A', 'E', 'F', 'G'].contains directive.letter
  | _ => false

/-- A longer list counts as endless. -/
def mostNumbers : Nat := 1000000

/-- So many numbers of an endless list are written. -/
def numbersShown : Nat := 100000

/-- The numbers from one to another. -/
def seq : Tool := fun arguments => do
  let operands (given : Given) : Option (Decimal × Decimal × Decimal) := do
    match ← given.operands.mapM Decimal.read? with
    | [last] => return (⟨1, 0⟩, ⟨1, 0⟩, last)
    | [first, last] => return (first, ⟨1, 0⟩, last)
    | [first, size, last] => return (first, size, last)
    | _ => none
  match countRequest ⟨[], []⟩ arguments with
  | none => return 1
  | some given =>
      match operands given with
      | none =>
          match given.operands, given.operands.find? fun word => (Decimal.read? word).isNone with
          | [], _ => missingOperand "seq" 1
          | _ :: _ :: _ :: extra :: _, _ => extraOperand "seq" extra 1
          | _, some word =>
              refuse "seq" (Text.of "invalid floating point argument: " ++ quoted word) 1
          | _, none => return 1
      | some (first, size, last) => do
          let format? := given.value? 'f'
          if size.numerator = 0 ∨ !format?.all isRealFormat ∨ (format?.isSome ∧ given.has 'w') then
            return 1
          let places := max first.places size.places
          let common := max places last.places
          let first := first.scaled common
          let size := size.scaled common
          let count := countOf first size (last.scaled common)
          let written := if mostNumbers < count then numbersShown else count
          let numbers := (List.range written).map fun index : Nat => first + size * index
          let plain := numbers.map fun number =>
            Decimal.text places (number / (Nat.pow 10 (common - places) : Int))
          let width := ((plain.take 1 ++ plain.getLast?.toList).map List.length).foldl max 0
          let texts :=
            match format? with
            | some format => plain.map fun text => (Format.print .ofProgram format [text]).output
            | none => if given.has 'w' then plain.map (widened width) else plain
          let separator := ((given.value? 's').getD ['\n'])
          if texts = [] then return 0
          Work.pour ⟨Text.join separator texts ++ ['\n'], mostNumbers < count⟩

/-- The prime factors from a number on, of which there are at most as many steps as given. -/
def factorsFrom : Nat → Nat → Nat → List Nat
  | 0, _, n => if n = 1 then [] else [n]
  | fuel + 1, divisor, n =>
      if n < divisor * divisor then (if n ≤ 1 then [] else [n])
      else if n % divisor = 0 then divisor :: factorsFrom fuel divisor (n / divisor)
      else factorsFrom fuel (if divisor = 2 then 3 else divisor + 2) n

/-- Larger factors than this are not looked for. -/
def factorSteps : Nat := 1000000

/-- The line that shows the factors of a number. -/
def factorLine? (word : Text) : Option Text :=
  let unsigned := match word with
    | '+' :: rest => rest
    | word => word
  let (digits, rest) := Integer.digits 10 unsigned
  if digits = [] ∨ rest ≠ [] then none
  else
    let number := Integer.natural 10 digits
    some (Text.ofNat number ++ [':'] ++
      ((if number = 0 then [] else factorsFrom factorSteps 2 number).flatMap fun factor =>
        ' ' :: Text.ofNat factor) ++ ['\n'])

/-- The prime factors of numbers. -/
def factor : Tool := fun arguments => do
  let words ←
    if arguments = [] then do
      let text := (← Work.input?).getD []
      pure ((Text.pieces Integer.isBlank text).filter (· ≠ []))
    else pure arguments
  let lines := words.map factorLine?
  let status ← Work.put (lines.filterMap id).flatten
  for word in words do
    if (factorLine? word).isNone then
      discard (fail "factor" (quoted word ++ Text.of " is not a valid positive integer") 1)
  return if lines.all Option.isSome then status else 1

end Promptline.Tool
