/-
This file defines which texts are JSON numbers. A number is refused when its double is infinite: the
significand and the power of ten are each rounded to a double, and so is their product.
-/

import Promptline.Text.Basic

namespace Promptline.Json

def isDigit (c : Char) : Bool := '0' ≤ c && c ≤ '9'

def digitValue (c : Char) : Nat := c.toNat - '0'.toNat

def decimalValue (digits : Text) : Nat := digits.foldl (fun n c => n * 10 + digitValue c) 0

/-- The parts of a number that lies within the grammar. The sign has no part in its size. -/
structure NumberParts where
  whole : Text
  fraction : Text
  exponent : Int
  deriving DecidableEq, Repr

/-- An exponent has a letter, perhaps a sign, and at least one digit. -/
def exponent? : Text → Option Int
  | [] => some 0
  | letter :: rest =>
      if letter ≠ 'e' ∧ letter ≠ 'E' then none
      else
        let (negative, digits) :=
          match rest with
          | '-' :: digits => (true, digits)
          | '+' :: digits => (false, digits)
          | digits => (false, digits)
        if digits = [] ∨ ¬ digits.all isDigit then none
        else
          let size : Int := decimalValue digits
          some (if negative then -size else size)

/-- A fraction has a point and at least one digit, and the exponent follows it. -/
def fraction? : Text → Option (Text × Text)
  | '.' :: rest =>
      let digits := rest.takeWhile isDigit
      if digits = [] then none else some (digits, rest.dropWhile isDigit)
  | rest => some ([], rest)

/-- The whole part is zero or starts with another digit. -/
def numberParts? (text : Text) : Option NumberParts := do
  let unsigned := if text.head? = some '-' then text.drop 1 else text
  let whole := unsigned.takeWhile isDigit
  if whole = [] ∨ (whole.head? = some '0' ∧ 1 < whole.length) then none
  let (fraction, rest) ← fraction? (unsigned.dropWhile isDigit)
  return ⟨whole, fraction, ← exponent? rest⟩

/-- The number is rounded to 53 binary digits, and a tie goes to the even neighbour. -/
def roundToDouble (n : Nat) : Nat :=
  let unit := Nat.pow 2 (n.log2 + 1 - 53)
  let below := n / unit
  let rest := n % unit
  let up := unit < 2 * rest || (unit = 2 * rest && below % 2 = 1)
  (if up then below + 1 else below) * unit

/-- Leading digits make up the significand as long as it stays below 2 to the power of 64. -/
def significand (start : Nat) : Text → Nat × Nat
  | [] => (start, 0)
  | c :: rest =>
      let next := start * 10 + digitValue c
      if Nat.pow 2 64 ≤ next then (start, 0)
      else
        let (value, taken) := significand next rest
        (value, taken + 1)

namespace NumberParts

/-- The significand and the power of ten that goes with it. -/
def scaled (parts : NumberParts) : Nat × Int :=
  let (head, taken) := significand 0 parts.whole
  if taken < parts.whole.length then
    (head, parts.exponent + (parts.whole.length - taken : Nat))
  else
    let (value, places) := significand head parts.fraction
    (value, parts.exponent - places)

/-- A significand that is not zero overflows with a power beyond 308, or in the product. -/
def overflows (parts : NumberParts) : Bool :=
  let (value, power) := parts.scaled
  value ≠ 0 && (308 < power ||
    (0 ≤ power &&
      Nat.pow 2 1024 ≤
        roundToDouble (roundToDouble value * roundToDouble (Nat.pow 10 power.toNat))))

end NumberParts

/-- The text is a number whose double is finite. -/
def isNumber (text : Text) : Bool := (numberParts? text).any fun parts => !parts.overflows

end Promptline.Json
