/-
This file cuts a TOML document into tokens. Comments are checked and dropped, and strings are read.
-/

import Promptline.Toml.Quoted

namespace Promptline.Toml

inductive Token where
  | dot
  | equals
  | comma
  | openSquare
  | closeSquare
  | openCurly
  | closeCurly
  | newline
  | space (blanks : Text)
  | string (value : Text) (long : Bool)
  /-- An atom is part of a bare key, of a number, of a date or time, or a truth value. -/
  | atom (text : Text)
  deriving DecidableEq, Repr

def mark? : Char → Option Token
  | '.' => some .dot
  | '=' => some .equals
  | ',' => some .comma
  | '[' => some .openSquare
  | ']' => some .closeSquare
  | '\x7b' => some .openCurly
  | '\x7d' => some .closeCurly
  | '\n' => some .newline
  | _ => none

/-- Whether the characters of an atom make sense is left to whoever reads the atom. -/
def isAtomPart (c : Char) : Bool := !".=,[]\x7b\x7d# \t\r\n".toList.contains c

def isCommentPart (c : Char) : Bool := c ≠ '\r' && c ≠ '\n'

/-- The first token of a text, unless it is a comment, and the rest. -/
def token? : Text → Option (Option Token × Text)
  | [] => none
  | '\r' :: '\n' :: rest => some (some .newline, rest)
  | '#' :: rest =>
      let comment := rest.takeWhile isCommentPart
      if comment.all isAllowed then some (none, rest.dropWhile isCommentPart) else none
  | c :: rest =>
      match mark? c with
      | some mark => some (some mark, rest)
      | none =>
          if isSpace c then
            some (some (.space (c :: rest.takeWhile isSpace)), rest.dropWhile isSpace)
          else if c = '"' ∨ c = '\'' then
            (StringToken.ofText? (c :: rest)).map fun token =>
              (some (.string token.value token.long), token.rest)
          else if isAtomPart c then
            some (some (.atom (c :: rest.takeWhile isAtomPart)), rest.dropWhile isAtomPart)
          else none

/-- Every token takes a character at least, so the length of the text bounds their number. -/
def tokensWithin? : Nat → Text → Option (List Token)
  | _, [] => some []
  | 0, _ => none
  | fuel + 1, text => do
      let (token?, rest) ← token? text
      return token?.toList ++ (← tokensWithin? fuel rest)

/-- A byte order mark at the start has no meaning. -/
def tokens? (text : Text) : Option (List Token) :=
  let text := if text.head? = some '\uFEFF' then text.drop 1 else text
  tokensWithin? text.length text

end Promptline.Toml
