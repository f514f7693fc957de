/-
This file resolves the backslash escapes in the arguments of programs. An escape can stand for any
byte, so texts are in bytewise form here.
-/

import Promptline.Text.Bytes

namespace Promptline

/-- The escapes that are known besides the letters for control characters and at most three octal
digits. -/
structure EscapeRules where
  /-- A zero in front of octal digits is not one of the three. -/
  zeroed : Bool
  /-- At most two hexadecimal digits follow the letter x. -/
  hexadecimal : Bool
  /-- Four digits follow the letter u, and eight the letter U. A code without its digits is a
  fault. -/
  unicode : Bool
  /-- The letter c ends the output. -/
  stops : Bool
  deriving DecidableEq, Repr

/-- The text without its escapes, and whether one of them ended it or was a fault. -/
structure Unescaped where
  text : Text
  stopped : Bool
  faulty : Bool
  deriving DecidableEq, Repr

namespace EscapeRules

def letter? : Char → Option Char
  | 'a' => some '\x07'
  | 'b' => some '\x08'
  | 'e' => some '\x1b'
  | 'f' => some '\x0c'
  | 'n' => some '\n'
  | 'r' => some '\r'
  | 't' => some '\t'
  | 'v' => some '\x0b'
  | '\\' => some '\\'
  | _ => none

def digit? (base : Nat) (c : Char) : Option Nat :=
  let value :=
    if c.isDigit then c.toNat - '0'.toNat
    else if 'a' ≤ c ∧ c ≤ 'z' then c.toNat - 'a'.toNat + 10
    else if 'A' ≤ c ∧ c ≤ 'Z' then c.toNat - 'A'.toNat + 10
    else base
  if value < base then some value else none

/-- The value of the leading digits, at most as many as given, and their number. -/
def leading (base : Nat) : Nat → Text → Nat × Nat :=
  go 0 0
where
  go (value count : Nat) : Nat → Text → Nat × Nat
    | left + 1, c :: rest =>
        match digit? base c with
        | some digit => go (value * base + digit) (count + 1) left rest
        | none => (value, count)
    | _, _ => (value, count)

/-- What an escape stands for, and how many characters behind the backslash belong to it. -/
inductive Meaning where
  | text (written : Text) (count : Nat)
  | stop
  | fault
  deriving DecidableEq, Repr

/-- A character of the basic set has no code of its own, except for three, and neither has half of a
pair. -/
def isNamed (code : Nat) : Bool :=
  !((code ≤ 0x9f && !([0x24, 0x40, 0x60].contains code)) || (0xd800 ≤ code && code ≤ 0xdfff))

def byte (value : Nat) : Text := [Text.ofByte value.toUInt8]

/-- The meaning of the text behind a backslash. An unknown escape stands for itself. -/
def meaning (rules : EscapeRules) (text : Text) : Meaning :=
  match text with
  | [] => .text ['\\'] 0
  | c :: rest =>
      let unicode (digits : Nat) : Meaning :=
        let (code, count) := leading 16 digits rest
        if count < digits ∨ !isNamed code then .fault
        else .text (Text.bytewise [Char.ofNat code]) (digits + 1)
      match letter? c, digit? 8 c with
      | some written, _ => .text [written] 1
      | none, some _ =>
          let zeros := if rules.zeroed ∧ c = '0' then 1 else 0
          let (code, count) := leading 8 3 (text.drop zeros)
          .text (byte code) (zeros + count)
      | none, none =>
          if c = 'c' ∧ rules.stops then .stop
          else if c = 'x' ∧ rules.hexadecimal then
            let (code, count) := leading 16 2 rest
            if count ≠ 0 then .text (byte code) (count + 1)
            else if rules.unicode then .fault else .text ['\\', c] 1
          else if c = '"' ∧ rules.unicode then .text [c] 1
          else if c = 'u' ∧ rules.unicode then unicode 4
          else if c = 'U' ∧ rules.unicode then unicode 8
          else .text ['\\', c] 1

def decode (rules : EscapeRules) (text : Text) : Unescaped :=
  match text with
  | [] => ⟨[], false, false⟩
  | '\\' :: rest =>
      match rules.meaning rest with
      | .stop => ⟨[], true, false⟩
      | .fault => ⟨[], false, true⟩
      | .text written count =>
          let others := rules.decode (rest.drop count)
          { others with text := written ++ others.text }
  | c :: rest =>
      let others := rules.decode rest
      { others with text := c :: others.text }
termination_by text.length
decreasing_by
  all_goals simp only [List.length_cons, List.length_drop]
  all_goals omega

end EscapeRules

end Promptline
