/-
This file names kinds of characters. Only those of ASCII belong to a kind.
-/

import Promptline.Text.Basic

namespace Promptline.Text

def isPunctuation (c : Char) : Bool := '!' ≤ c && c ≤ '~' && !c.isAlphanum

/-- The characters of a named kind. -/
def kind? (name : Text) : Option (Char → Bool) :=
  match String.ofList name with
  | "alnum" => some Char.isAlphanum
  | "alpha" => some Char.isAlpha
  | "blank" => some fun c => c = ' ' || c = '\t'
  | "cntrl" => some fun c => c.toNat < 32 || c.toNat = 127
  | "digit" => some Char.isDigit
  | "graph" => some fun c => '!' ≤ c && c ≤ '~'
  | "lower" => some Char.isLower
  | "print" => some fun c => ' ' ≤ c && c ≤ '~'
  | "punct" => some isPunctuation
  | "space" => some fun c => c = ' ' || ('\t' ≤ c && c ≤ '\r')
  | "upper" => some Char.isUpper
  | "xdigit" => some fun c =>
      c.isDigit || ('a' ≤ c && c ≤ 'f') || ('A' ≤ c && c ≤ 'F')
  | _ => none

end Promptline.Text
