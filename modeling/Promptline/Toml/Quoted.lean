/-
This file reads the strings of TOML. The extent of a string is found first, and escapes are resolved
in what lies between its quotes.
-/

import Promptline.Json.Token

namespace Promptline.Toml

/-- Control characters other than the tab are nowhere allowed. -/
def isAllowed (c : Char) : Bool := c = '\t' || (0x20 ≤ c.toNat && c ≠ '\x7f')

def isSpace (c : Char) : Bool := c = ' ' || c = '\t'

/-- A carriage return is allowed only before a line feed. -/
def isLongBody : Text → Bool
  | '\r' :: '\n' :: rest => isLongBody rest
  | c :: rest => (c = '\n' || isAllowed c) && isLongBody rest
  | [] => true

/-- The body of a basic string and the rest behind the closing quote. -/
def basicBody? : Text → Option (Text × Text)
  | '"' :: rest => some ([], rest)
  | '\\' :: c :: rest => (basicBody? rest).map fun (body, rest) => ('\\' :: c :: body, rest)
  | c :: rest => (basicBody? rest).map fun (body, rest) => (c :: body, rest)
  | [] => none

/-- The body of a literal string and the rest behind the closing quote. -/
def literalBody? (text : Text) : Option (Text × Text) := text.splitAt? '\''

/-- Up to two quotes may stand right before the three that close a long string. -/
def closing? (quote : Char) (text : Text) : Option (Text × Text) :=
  let quotes := min 5 (text.takeWhile (· = quote)).length
  if quotes < 3 then none else some (List.replicate (quotes - 3) quote, text.drop quotes)

/-- The body of a long basic string and the rest behind the closing quotes. -/
def longBasicBody? : Text → Option (Text × Text)
  | [] => none
  | '\\' :: c :: rest => (longBasicBody? rest).map fun (body, rest) => ('\\' :: c :: body, rest)
  | c :: rest =>
      match closing? '"' (c :: rest) with
      | some found => some found
      | none => (longBasicBody? rest).map fun (body, rest) => (c :: body, rest)

/-- The body of a long literal string and the rest behind the closing quotes. -/
def longLiteralBody? : Text → Option (Text × Text)
  | [] => none
  | c :: rest =>
      match closing? '\'' (c :: rest) with
      | some found => some found
      | none => (longLiteralBody? rest).map fun (body, rest) => (c :: body, rest)

/-- A line end right behind the opening quotes is dropped. -/
def dropFirstLineEnd : Text → Text
  | '\r' :: '\n' :: rest => rest
  | '\n' :: rest => rest
  | text => text

/-- The blanks of a fold hold a line end before anything else. -/
def opensFold (text : Text) : Bool :=
  match text.dropWhile isSpace with
  | '\n' :: _ | '\r' :: '\n' :: _ => true
  | _ => false

/-- A backslash at the end of a line drops all white space up to the next character. -/
def unfold (folding : Bool) : Text → Text
  | [] => []
  | '\\' :: c :: rest =>
      if opensFold (c :: rest) then unfold true rest else '\\' :: c :: unfold false rest
  | c :: rest =>
      if folding && (isSpace c || c = '\n' || c = '\r') then unfold true rest
      else c :: unfold false rest

/-- The characters that a letter stands for behind a backslash. -/
def escaped? : Char → Option Char
  | 'b' => some '\x08'
  | 't' => some '\t'
  | 'n' => some '\n'
  | 'f' => some '\x0c'
  | 'r' => some '\r'
  | 'e' => some '\x1b'
  | '"' => some '"'
  | '\\' => some '\\'
  | _ => none

/-- The character with the given hexadecimal digits, unless it would be half of a pair. -/
def coded? (digits : Text) : Option Char := do
  let values ← digits.mapM Json.hexValue?
  let n := values.foldl (fun n value => n * 16 + value) 0
  if n < 0xD800 ∨ (0xE000 ≤ n ∧ n < 0x110000) then some (Char.ofNat n) else none

/-- A known escape stands for a character, and an unknown one is refused. -/
def unescape? : Text → Option Text
  | [] => some []
  | '\\' :: 'x' :: a :: b :: rest => do return (← coded? [a, b]) :: (← unescape? rest)
  | '\\' :: 'u' :: a :: b :: c :: d :: rest => do
      return (← coded? [a, b, c, d]) :: (← unescape? rest)
  | '\\' :: 'U' :: a :: b :: c :: d :: e :: f :: g :: h :: rest => do
      return (← coded? [a, b, c, d, e, f, g, h]) :: (← unescape? rest)
  | '\\' :: letter :: rest => do return (← escaped? letter) :: (← unescape? rest)
  | ['\\'] => none
  | c :: rest => (unescape? rest).map (c :: ·)

/-- A string with the rest of the text behind it. Long strings may hold line ends. -/
structure StringToken where
  value : Text
  long : Bool
  rest : Text
  deriving DecidableEq, Repr

/-- The string that the text starts with. -/
def StringToken.ofText? : Text → Option StringToken
  | '"' :: '"' :: '"' :: rest => do
      let (body, rest) ← longBasicBody? (dropFirstLineEnd rest)
      if isLongBody body then return ⟨← unescape? (unfold false body), true, rest⟩ else none
  | '\'' :: '\'' :: '\'' :: rest => do
      let (body, rest) ← longLiteralBody? (dropFirstLineEnd rest)
      if isLongBody body then return ⟨body, true, rest⟩ else none
  | '"' :: rest => do
      let (body, rest) ← basicBody? rest
      if body.all isAllowed then return ⟨← unescape? body, false, rest⟩ else none
  | '\'' :: rest => do
      let (body, rest) ← literalBody? rest
      if body.all isAllowed then return ⟨body, false, rest⟩ else none
  | _ => none

end Promptline.Toml
