/-
This file reads and writes real numbers with a fixed number of significant binary digits. A number
is rounded once when it is read, and its text is rounded from its exact value.
-/

import Promptline.Program.Integer

namespace Promptline

/-- A finite number is a quotient. -/
inductive Real where
  | finite (negative : Bool) (numerator denominator : Nat)
  | infinite (negative : Bool)
  | notANumber (negative : Bool)
  deriving DecidableEq, Repr

namespace Real

/-- The whole number next to a quotient. A tie goes to the even one. -/
def nearest (numerator denominator : Nat) : Nat :=
  let below := numerator / denominator
  let rest := numerator % denominator
  if denominator < 2 * rest ∨ (denominator = 2 * rest ∧ below % 2 = 1) then below + 1 else below

/-- A quotient that is scaled by a power of a base. -/
def scale (base : Nat) (power : Int) (numerator denominator : Nat) : Nat × Nat :=
  if power < 0 then (numerator, denominator * Nat.pow base power.natAbs)
  else (numerator * Nat.pow base power.toNat, denominator)

/-- The quotient with a number of significant binary digits, as a whole number and a power of
two. -/
def significant (digits numerator denominator : Nat) : Nat × Int :=
  if numerator = 0 then (0, 0)
  else
    let guess : Int := (numerator.log2 : Int) - denominator.log2 - digits
    let size (power : Int) : Nat :=
      let (numerator, denominator) := scale 2 (-power) numerator denominator
      nearest numerator denominator
    let power := if size guess < Nat.pow 2 digits then guess else guess + 1
    (size power, power)

/-- The kinds of real numbers that programs calculate with. -/
structure Precision where
  digits : Nat
  /-- Numbers from this power of two on are infinite. -/
  highest : Nat
  deriving DecidableEq, Repr

def double : Precision := ⟨53, 1024⟩

def extended : Precision := ⟨64, 16384⟩

/-- The nearest number of a precision. -/
def round (precision : Precision) (real : Real) : Real :=
  match real with
  | finite negative numerator denominator =>
      let (size, power) := significant precision.digits numerator denominator
      let (numerator, denominator) := scale 2 power size 1
      if Nat.pow 2 precision.highest * denominator ≤ numerator then infinite negative
      else finite negative numerator denominator
  | other => other

/-- A real number at the start of a text, and the text behind it. -/
structure Reading where
  real : Real
  rest : Text
  deriving DecidableEq, Repr

/-- The power that a letter introduces, unless no digits follow it. -/
def exponent (letter : Char) (text : Text) : Int × Text :=
  match text with
  | [] => (0, text)
  | c :: rest =>
      if c.toLower ≠ letter then (0, text)
      else
        let (negative, unsigned) :=
          match rest with
          | '-' :: rest => (true, rest)
          | '+' :: rest => (false, rest)
          | rest => (false, rest)
        let (digits, behind) := Integer.digits 10 unsigned
        let size : Int := Integer.natural 10 digits
        if digits = [] then (0, text) else (if negative then -size else size, behind)

/-- The digits before and behind a point, unless there are none. -/
def digits? (base : Nat) (text : Text) : Option (Text × Text × Text) :=
  let (whole, rest) := Integer.digits base text
  let (fraction, behind) :=
    match rest with
    | '.' :: rest => Integer.digits base rest
    | _ => ([], rest)
  if whole = [] ∧ fraction = [] then none else some (whole, fraction, behind)

/-- Powers beyond this one make no difference. -/
def highestPower : Int := 20000

def ofDigits (base step : Nat) (negative : Bool) (whole fraction : Text) (power : Int) : Real :=
  let power := max (-highestPower) (min highestPower power)
  let (numerator, denominator) :=
    scale step power (Integer.natural base (whole ++ fraction)) (Nat.pow base fraction.length)
  finite negative numerator denominator

def startsWithWord? (word : String) (text : Text) : Option Text :=
  let length := word.length
  if (text.take length).map Char.toLower = Text.of word then some (text.drop length) else none

/-- The number at the start of a text, behind blanks and a sign. -/
def read? (text : Text) : Option Reading :=
  let (negative, unsigned) :=
    match text.dropWhile Integer.isBlank with
    | '-' :: rest => (true, rest)
    | '+' :: rest => (false, rest)
    | rest => (false, rest)
  let decimal? : Option Reading := do
    let (whole, fraction, rest) ← digits? 10 unsigned
    let (power, rest) := exponent 'e' rest
    return ⟨ofDigits 10 10 negative whole fraction power, rest⟩
  let hexadecimal? : Option Reading := do
    let (whole, fraction, rest) ← digits? 16 (← startsWithWord? "0x" unsigned)
    let (power, rest) := exponent 'p' rest
    return ⟨ofDigits 16 2 negative whole fraction power, rest⟩
  let word? (word : String) (real : Real) : Option Reading :=
    (startsWithWord? word unsigned).map fun rest => ⟨real, rest⟩
  hexadecimal? <|> decimal? <|> word? "infinity" (infinite negative) <|>
    word? "inf" (infinite negative) <|> word? "nan" (notANumber negative)

/-- The digits of a whole number, with zeros in front up to a length. -/
def padded (length n : Nat) : Text :=
  let digits := Text.ofNat n
  List.replicate (length - digits.length) '0' ++ digits

/-- A point stands before a fraction, and else only if it is asked for. -/
def withPoint (keepsPoint : Bool) (whole fraction : Text) : Text :=
  whole ++ (if fraction = [] ∧ !keepsPoint then [] else '.' :: fraction)

/-- The size with a fixed number of places. -/
def fixed (keepsPoint : Bool) (places numerator denominator : Nat) : Text :=
  let scaled := nearest (numerator * Nat.pow 10 places) denominator
  let digits := padded (places + 1) scaled
  let whole := digits.length - places
  withPoint keepsPoint (digits.take whole) (digits.drop whole)

/-- The power of ten of the first digit, when a size is rounded to a number of places behind it. -/
def leadingPower (places numerator denominator : Nat) : Int × Nat :=
  if numerator = 0 then (0, 0)
  else
    let rounded (power : Int) : Nat :=
      let (numerator, denominator) := scale 10 (places - power) numerator denominator
      nearest numerator denominator
    let estimate : Int := (((numerator.log2 : Int) - denominator.log2) * 30103).fdiv 100000 - 1
    let candidates := [estimate, estimate + 1, estimate + 2, estimate + 3]
    match candidates.find? fun power => rounded power < Nat.pow 10 (places + 1) with
    | some power => (power, rounded power)
    | none => (estimate, rounded estimate)

def powerText (letter : Char) (power : Int) : Text :=
  [letter, if power < 0 then '-' else '+'] ++ padded 2 power.natAbs

/-- The size with one digit before the point and a power of ten. -/
def scientific (keepsPoint : Bool) (letter : Char) (places numerator denominator : Nat) : Text :=
  let (power, digits) := leadingPower places numerator denominator
  let digits := padded (places + 1) digits
  withPoint keepsPoint (digits.take 1) (digits.drop 1) ++ powerText letter power

def dropZeros (text : Text) : Text := (text.reverse.dropWhile (· = '0')).reverse

/-- The shorter one of both forms, with a number of significant digits. Zeros at the end of the
fraction are kept only if they are asked for. -/
def general (keepsZeros : Bool) (letter : Char) (digits numerator denominator : Nat) : Text :=
  let digits := max 1 digits
  let (power, value) := leadingPower (digits - 1) numerator denominator
  let trim (fraction : Text) : Text := if keepsZeros then fraction else dropZeros fraction
  if power < -4 ∨ digits ≤ power then
    let all := padded digits value
    withPoint keepsZeros (all.take 1) (trim (all.drop 1)) ++ powerText letter power
  else
    let places := (digits - 1 - power).toNat
    let all := padded (places + 1) (nearest (numerator * Nat.pow 10 places) denominator)
    let whole := all.length - places
    withPoint keepsZeros (all.take whole) (trim (all.drop whole))

/-- The number without its sign. -/
def unsignedText (alternate : Bool) (letter : Char) (precision : Nat) (real : Real) : Text :=
  let capital := letter.isUpper
  match real with
  | infinite _ => Text.of (if capital then "INF" else "inf")
  | notANumber _ => Text.of (if capital then "NAN" else "nan")
  | finite _ numerator denominator =>
      match letter.toLower with
      | 'f' => fixed alternate precision numerator denominator
      | 'e' => scientific alternate (if capital then 'E' else 'e') precision numerator denominator
      | _ => general alternate (if capital then 'E' else 'e') precision numerator denominator

def isNegative : Real → Bool
  | finite negative _ _ | infinite negative | notANumber negative => negative

def isFinite : Real → Bool
  | finite _ _ _ => true
  | _ => false

end Real

end Promptline
