/-
This file reads the TOML values that are written without quotes: truth values, integers, floats,
dates and times. Nothing but the acceptance of floats, dates and times is kept.
-/

import Promptline.Json.Token

namespace Promptline.Toml

open Json (isDigit decimalValue)

inductive Scalar where
  | bool (value : Bool)
  /-- Digits that make up no number are noticed only where the value is used. -/
  | integer (value? : Option Int)
  /-- A float is finite or infinite as a double only if it is written so. -/
  | float (representable : Bool)
  | moment
  deriving DecidableEq, Repr

/-- A sign and the text behind it. -/
def signed : Text → Bool × Text
  | '-' :: rest => (true, rest)
  | '+' :: rest => (false, rest)
  | text => (false, text)

/-- The groups between underscores touch them with accepted characters. A first group of a single
character may be a sign. -/
def isGrouped (accepts : Char → Bool) (text : Text) : Bool :=
  match text.pieces (· = '_') with
  | [] => true
  | [_] => true
  | first :: rest =>
      first ≠ [] && rest.all (fun group => group.head?.any accepts) &&
        ((first :: rest).dropLast.all fun group =>
          group.length ≤ 1 || group.getLast?.any accepts)

def ungrouped (text : Text) : Text := text.filter (· ≠ '_')

def isHexDigit (c : Char) : Bool := (Json.hexValue? c).isSome

/-- An integer in another base has only digits of that base and underscores, and perhaps no digit
at all. -/
def based? (base : Nat) (text : Text) : Option Scalar :=
  let isBaseDigit (c : Char) : Bool := (Json.hexValue? c).any (· < base)
  if text.all (fun c => isBaseDigit c || c = '_') && isGrouped isHexDigit text then
    let values := (ungrouped text).filterMap Json.hexValue?
    some (.integer (if values = [] then none
      else some (values.foldl (fun n value => n * base + value) 0 : Nat)))
  else none

/-- The value of a sign and digits. -/
def decimal? (text : Text) : Option Int :=
  let (negative, digits) := signed text
  if digits ≠ [] ∧ digits.all isDigit then
    some (if negative then -(decimalValue digits : Int) else decimalValue digits)
  else none

/-- The digits, read as a whole number and scaled by the power of ten, stay below what rounds to
infinity as a double. -/
def isRepresentable (digits : Text) (power : Int) : Bool :=
  let value := decimalValue digits
  let size := (Nat.toDigits 10 value).length + power
  let bound := Nat.pow 2 1024 - Nat.pow 2 970
  if value = 0 ∨ size < 309 then true
  else if 310 < size then false
  else if 0 ≤ power then value * Nat.pow 10 power.toNat < bound
  else value < bound * Nat.pow 10 power.natAbs

/-- Digits and underscores with a digit among them, and the rest. -/
def digits? (text : Text) : Option (Text × Text) :=
  let isPart (c : Char) : Bool := isDigit c || c = '_'
  let digits := ungrouped (text.takeWhile isPart)
  if digits = [] then none else some (digits, text.dropWhile isPart)

/-- The digits behind a point, if there is one. -/
def fraction? : Text → Option (Text × Text)
  | '.' :: rest => digits? rest
  | text => some ([], text)

/-- The power of ten behind the letter, if there is one. -/
def exponent? : Text → Option (Int × Text)
  | [] => some (0, [])
  | letter :: rest => do
      if letter ≠ 'e' ∧ letter ≠ 'E' then none
      let (negative, rest) := signed rest
      let (digits, rest) ← digits? rest
      return (if negative then -(decimalValue digits : Int) else decimalValue digits, rest)

/-- A float without its sign. No zero stands in front of other digits, and nothing behind. -/
def float? (text : Text) : Option Scalar := do
  let (whole, rest) ← digits? text
  if 1 < whole.length ∧ text.head? = some '0' then none
  let (fraction, rest) ← fraction? rest
  let (exponent, rest) ← exponent? rest
  if rest ≠ [] then none
  return .float (isRepresentable (whole ++ fraction) (exponent - fraction.length))

/-- A number with its sign, and the text without it. -/
def number? (text unsigned : Text) : Option Scalar :=
  let rest := unsigned.dropWhile isDigit
  if unsigned = ['0'] then some (.integer (some 0))
  else if rest.any fun c => c = '.' || c = 'e' || c = 'E' then
    if isGrouped isDigit text then float? unsigned else none
  else if unsigned.head? = some '0' then none
  else if rest = [] ∨ rest.head? = some '_' then
    if isGrouped isHexDigit text then some (.integer (decimal? (ungrouped text))) else none
  else none

/-- A number of exactly so many digits, and the rest. -/
def fixed? (length : Nat) (text : Text) : Option (Nat × Text) :=
  let digits := text.take length
  if digits.length = length ∧ digits.all isDigit then
    some (decimalValue digits, text.drop length)
  else none

def expect? (c : Char) : Text → Option Text
  | d :: rest => if c = d then some rest else none
  | [] => none

def daysInMonth (year month : Nat) : Nat :=
  if month = 2 then
    if year % 4 = 0 ∧ (year % 100 ≠ 0 ∨ year % 400 = 0) then 29 else 28
  else if [4, 6, 9, 11].contains month then 30 else 31

/-- A date of the calendar and the rest behind it. -/
def date? (text : Text) : Option Text := do
  let (year, rest) ← fixed? 4 text
  let (month, rest) ← fixed? 2 (← expect? '-' rest)
  let (day, rest) ← fixed? 2 (← expect? '-' rest)
  if 1 ≤ month ∧ month ≤ 12 ∧ 1 ≤ day ∧ day ≤ daysInMonth year month then some rest else none

/-- Seconds may be missing, and a leap second is allowed. -/
def seconds? (text : Text) : Option Text :=
  match text with
  | ':' :: rest => do
      let (second, rest) ← fixed? 2 rest
      if 60 < second then none
      match rest with
      | '.' :: rest =>
          if (rest.head?.any isDigit) then some (rest.dropWhile isDigit) else none
      | rest => some rest
  | text => some text

def time? (text : Text) : Option Text := do
  let (hour, rest) ← fixed? 2 text
  let (minute, rest) ← fixed? 2 (← expect? ':' rest)
  if hour ≤ 23 ∧ minute ≤ 59 then seconds? rest else none

/-- An offset is the letter of universal time, or hours and minutes with a sign. -/
def isOffset : Text → Bool
  | [] | ['Z'] | ['z'] => true
  | sign :: rest =>
      (sign = '+' || sign = '-') &&
        ((do
          let (hour, rest) ← fixed? 2 rest
          let (minute, rest) ← fixed? 2 (← expect? ':' rest)
          return hour ≤ 23 && minute ≤ 59 && rest.isEmpty).getD false)

/-- A date, a time of day, or both with perhaps an offset. -/
def isMoment (text : Text) : Bool :=
  match date? text with
  | none => (time? text).any List.isEmpty
  | some [] => true
  | some (separator :: rest) =>
      (separator = 'T' || separator = 't' || separator = ' ') && (time? rest).any isOffset

/-- A text that may be followed by a space and a time. -/
def isDate (text : Text) : Bool := date? text = some []

def scalar? (text : Text) : Option Scalar :=
  if text = Text.of "true" then some (.bool true)
  else if text = Text.of "false" then some (.bool false)
  else if isMoment text then some .moment
  else match text with
    | '0' :: 'x' :: rest => based? 16 rest
    | '0' :: 'o' :: rest => based? 8 rest
    | '0' :: 'b' :: rest => based? 2 rest
    | text =>
        let unsigned := (signed text).2
        if unsigned = Text.of "inf" ∨ unsigned = Text.of "nan" then some (.float true)
        else if unsigned.head?.any fun c => isDigit c || c = '_' then number? text unsigned
        else none

end Promptline.Toml
