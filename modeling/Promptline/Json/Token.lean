/-
This file cuts a JSON text into tokens, one character at a time. White space separates tokens and is
dropped.
-/

import Promptline.Json.Number

namespace Promptline.Json

inductive Token where
  | openArray
  | closeArray
  | openObject
  | closeObject
  | comma
  | colon
  | null
  | bool (value : Bool)
  | number (literal : Text)
  | string (value : Text)
  deriving DecidableEq, Repr

/-- The open token, with its characters in reverse. -/
inductive LexMode where
  | between
  | word (held : Text)
  | number (held : Text)
  | string (held : Text)
  | escape (held : Text)
  /-- Four hexadecimal digits follow, behind the first half of a pair if there is one. -/
  | unicode (held : Text) (lead? : Option Nat) (value left : Nat)
  | secondEscape (held : Text) (lead : Nat)
  | secondMark (held : Text) (lead : Nat)
  deriving DecidableEq, Repr

/-- The finished tokens stand in reverse. -/
structure Lexer where
  mode : LexMode
  tokens : List Token
  deriving DecidableEq, Repr

def isSpace (c : Char) : Bool := c = ' ' || c = '\t' || c = '\n' || c = '\r'

def isNumberPart (c : Char) : Bool :=
  isDigit c || c = '-' || c = '+' || c = '.' || c = 'e' || c = 'E'

def hexValue? (c : Char) : Option Nat :=
  if isDigit c then some (digitValue c)
  else if 'a' ≤ c ∧ c ≤ 'f' then some (c.toNat - 'a'.toNat + 10)
  else if 'A' ≤ c ∧ c ≤ 'F' then some (c.toNat - 'A'.toNat + 10)
  else none

/-- The characters that a letter stands for behind a backslash. -/
def escaped? : Char → Option Char
  | '"' => some '"'
  | '\\' => some '\\'
  | '/' => some '/'
  | 'b' => some '\x08'
  | 'f' => some '\x0c'
  | 'n' => some '\n'
  | 'r' => some '\r'
  | 't' => some '\t'
  | _ => none

def isLead (n : Nat) : Bool := 0xD800 ≤ n && n ≤ 0xDBFF

def isTrail (n : Nat) : Bool := 0xDC00 ≤ n && n ≤ 0xDFFF

/-- Four digits are a character, or one half of a pair that stands for one. -/
def unicodeMode? (held : Text) (lead? : Option Nat) (value : Nat) : Option LexMode :=
  match lead? with
  | some lead =>
      if isTrail value then
        some (.string (Char.ofNat (0x10000 + (lead - 0xD800) * 0x400 + (value - 0xDC00)) :: held))
      else none
  | none =>
      if isLead value then some (.secondEscape held value)
      else if isTrail value then none
      else some (.string (Char.ofNat value :: held))

def wordToken? (word : Text) : Option Token :=
  if word = Text.of "null" then some .null
  else if word = Text.of "true" then some (.bool true)
  else if word = Text.of "false" then some (.bool false)
  else none

namespace Lexer

def push (lexer : Lexer) (token : Token) : Lexer := ⟨.between, token :: lexer.tokens⟩

/-- A word or a number ends where another token or white space starts. -/
def finish? (lexer : Lexer) : Option Lexer :=
  match lexer.mode with
  | .between => some lexer
  | .word held => (wordToken? held.reverse).map lexer.push
  | .number held => if isNumber held.reverse then some (lexer.push (.number held.reverse)) else none
  | _ => none

/-- A character between two tokens is a mark of its own or opens a token. -/
def open? (lexer : Lexer) (c : Char) : Option Lexer :=
  if isSpace c then some lexer
  else if c = '[' then some (lexer.push .openArray)
  else if c = ']' then some (lexer.push .closeArray)
  else if c = '\x7b' then some (lexer.push .openObject)
  else if c = '\x7d' then some (lexer.push .closeObject)
  else if c = ',' then some (lexer.push .comma)
  else if c = ':' then some (lexer.push .colon)
  else if c = '"' then some { lexer with mode := .string [] }
  else if c = '-' ∨ isDigit c then some { lexer with mode := .number [c] }
  else if c.isLower then some { lexer with mode := .word [c] }
  else none

def step? (lexer : Lexer) (c : Char) : Option Lexer :=
  match lexer.mode with
  | .between => lexer.open? c
  | .word held =>
      if c.isLower then some { lexer with mode := .word (c :: held) }
      else lexer.finish?.bind fun finished => finished.open? c
  | .number held =>
      if isNumberPart c then some { lexer with mode := .number (c :: held) }
      else lexer.finish?.bind fun finished => finished.open? c
  | .string held =>
      if c = '"' then some (lexer.push (.string held.reverse))
      else if c = '\\' then some { lexer with mode := .escape held }
      else if c.toNat < 0x20 then none
      else some { lexer with mode := .string (c :: held) }
  | .escape held =>
      if c = 'u' then some { lexer with mode := .unicode held none 0 3 }
      else (escaped? c).map fun character => { lexer with mode := .string (character :: held) }
  | .unicode held lead? value left => do
      let value := value * 16 + (← hexValue? c)
      match left with
      | 0 => return { lexer with mode := ← unicodeMode? held lead? value }
      | left + 1 => return { lexer with mode := .unicode held lead? value left }
  | .secondEscape held lead =>
      if c = '\\' then some { lexer with mode := .secondMark held lead } else none
  | .secondMark held lead =>
      if c = 'u' then some { lexer with mode := .unicode held (some lead) 0 3 } else none

end Lexer

/-- The tokens of a text in order. -/
def tokens? (text : Text) : Option (List Token) := do
  let lexer ← text.foldlM Lexer.step? ⟨.between, []⟩
  return (← lexer.finish?).tokens.reverse

end Promptline.Json
