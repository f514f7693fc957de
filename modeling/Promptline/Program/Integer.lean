/-
This file reads and writes the whole numbers in the arguments of programs. They have 64 bits.
-/

import Promptline.Program.Escape

namespace Promptline.Integer

/-- There are so many numbers of 64 bits. -/
def words : Nat := 18446744073709551616

def least : Int := -9223372036854775808

def greatest : Int := 9223372036854775807

/-- The number of 64 bits with a sign that agrees with the given one in its lowest bits. -/
def wrap (n : Int) : Int := n.bmod words

def isBlank (c : Char) : Bool := c = ' ' || ('\t' ≤ c && c ≤ '\r')

/-- A number at the start of a text, as it is written, and the text behind it. -/
structure Reading where
  negative : Bool
  size : Nat
  rest : Text
  deriving DecidableEq, Repr

namespace Reading

def value (reading : Reading) : Int := if reading.negative then -reading.size else reading.size

/-- The value if it has 64 bits with a sign, and else the nearest one that has. -/
def clamped (reading : Reading) : Int := max least (min greatest reading.value)

def fits (reading : Reading) : Bool := reading.clamped = reading.value

/-- The value if it has 64 bits without a sign, where a minus sign counts down from zero. -/
def unsigned (reading : Reading) : Nat :=
  if words ≤ reading.size then words - 1 else (reading.value % words).toNat

def fitsUnsigned (reading : Reading) : Bool := reading.size < words

end Reading

/-- The leading digits of a base and what follows them. -/
def digits (base : Nat) (text : Text) : Text × Text :=
  text.span fun c => (EscapeRules.digit? base c).isSome

def natural (base : Nat) (digits : Text) : Nat :=
  digits.foldl (fun n c => n * base + (EscapeRules.digit? base c).getD 0) 0

/-- A prefix tells the base if none is given. -/
def based (base? : Option Nat) (text : Text) : Nat × Text :=
  match base?, text with
  | some base, text => (base, text)
  | none, '0' :: x :: rest =>
      if (x = 'x' ∨ x = 'X') ∧ (digits 16 rest).1 ≠ [] then (16, rest) else (8, text)
  | none, '0' :: _ => (8, text)
  | none, text => (10, text)

/-- The number at the start of a text, behind blanks and a sign. -/
def read? (base? : Option Nat) (text : Text) : Option Reading :=
  let (negative, unsigned) :=
    match text.dropWhile isBlank with
    | '-' :: rest => (true, rest)
    | '+' :: rest => (false, rest)
    | rest => (false, rest)
  let (base, text) := based base? unsigned
  let (digits, rest) := digits base text
  if digits = [] then none else some ⟨negative, natural base digits, rest⟩

/-- The number that a text stands for, with blanks around it. -/
def ofText? (base? : Option Nat) (text : Text) : Option Int := do
  let reading ← read? base? text
  if reading.rest.all isBlank ∧ reading.fits then return reading.value
  none

def text (n : Int) : Text := if n < 0 then '-' :: Text.ofNat n.natAbs else Text.ofNat n.toNat

/-- The digits of a number in a base up to sixteen, in small letters. -/
def inBase (base n : Nat) : Text := Nat.toDigits base n

end Promptline.Integer
