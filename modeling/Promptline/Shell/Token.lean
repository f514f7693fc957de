/-
This file reads the tokens of a script: words, operators and the starts of redirections.
-/

import Promptline.Shell.Command
import Promptline.Shell.Word.Reader

namespace Promptline.Shell

inductive Token where
  | finish
  | lineEnd
  | operator (text : Text)
  | redirection (descriptor : Nat) (kind : RedirectionKind)
  /-- The lines of a document may have their tabs in front taken away. -/
  | document (descriptor : Nat) (dropsTabs : Bool)
  | word (word : Word)
  deriving Repr

namespace Token

/-- The words that mean something where a command starts, and whether a list of commands ends with
them. -/
def keywords : List (String × Bool) :=
  [("!", false), ("case", false), ("do", true), ("done", true), ("elif", true), ("else", true),
    ("esac", true), ("fi", true), ("for", false), ("if", false), ("in", false), ("then", true),
    ("until", false), ("while", false), ("\x7b", false), ("\x7d", true)]

def keyword? : Token → Option String
  | word parts =>
      (Word.plain? parts).bind fun text =>
        (keywords.find? fun (keyword, _) => Text.of keyword = text).map Prod.fst
  | _ => none

def endsList (token : Token) : Bool :=
  match token, token.keyword? with
  | _, some keyword => keywords.any fun (other, ends) => ends && other = keyword
  | finish, _ => true
  | operator text, _ => text = [')'] || text = [';', ';']
  | _, _ => false

def quoted (text : Text) : Text := '"' :: text ++ ['"']

/-- How a fault refers to a token. -/
def name (token : Token) : Text :=
  match token, token.keyword? with
  | _, some keyword => quoted (Text.of keyword)
  | finish, _ => Text.of "end of file"
  | lineEnd, _ => Text.of "newline"
  | operator text, _ => quoted text
  | word _, _ => Text.of "word"
  | _, _ => Text.of "redirection"

/-- The kind of a redirection behind its sign, and the text behind it. -/
def redirection? (digit? : Option Nat) (text : Text) : Option (Token × Text) :=
  let input := digit?.getD 0
  let output := digit?.getD 1
  match text with
  | '>' :: rest =>
      match Word.skipJoins rest with
      | '>' :: rest => some (redirection output .append, rest)
      | '|' :: rest => some (redirection output .replace, rest)
      | '&' :: rest => some (redirection output .copy, rest)
      | rest => some (redirection output .write, rest)
  | '<' :: rest =>
      match Word.skipJoins rest with
      | '<' :: rest =>
          match Word.skipJoins rest with
          | '-' :: rest => some (document input true, rest)
          | rest => some (document input false, rest)
      | '&' :: rest => some (redirection input .copy, rest)
      | '>' :: rest => some (redirection input .readWrite, rest)
      | rest => some (redirection input .read, rest)
  | _ => none

/-- A word, unless it is only the descriptor of a redirection or empty. -/
def ofWord (nested : NestedScripts) (text : Text) : Except SyntaxFault (Token × Text) := do
  let (parts, rest) ← Word.read nested .word text
  let digit? : Option (Option Nat) :=
    match parts with
    | [] => some none
    | [.text false [c]] => if c.isDigit then some (some (c.toNat - '0'.toNat)) else none
    | _ => none
  match digit?.bind fun digit? => redirection? digit? rest with
  | some found => return found
  | none => return (.word parts, rest)

/-- An operator that may be written twice. -/
def double (c : Char) (text : Text) : Token × Text :=
  match Word.skipJoins text with
  | d :: rest => if d = c then (operator [c, c], rest) else (operator [c], d :: rest)
  | [] => (operator [c], [])

/-- The first token and the text behind it. Blanks and comments are passed over. -/
def read (nested : NestedScripts) : Nat → Text → Except SyntaxFault (Token × Text)
  | 0, _ => .ok (finish, [])
  | fuel + 1, text =>
      match Word.skipJoins text with
      | [] => .ok (finish, [])
      | c :: rest =>
          if c = ' ' ∨ c = '\t' then read nested fuel rest
          else if c = '#' then read nested fuel (rest.dropWhile (· ≠ '\n'))
          else if c = '\n' then .ok (lineEnd, rest)
          else if c = '&' ∨ c = '|' ∨ c = ';' then .ok (double c rest)
          else if c = '(' ∨ c = ')' then .ok (operator [c], rest)
          else ofWord nested (c :: rest)

end Token

/-- The word that ends a document, without its quotes, whether it has any, and the text behind
it. -/
def delimiter (quotes? : Option Char) : Text → Text × Bool × Text
  | [] => ([], quotes?.isSome, [])
  | c :: rest =>
      match quotes? with
      | some quote =>
          if c = quote then
            let (text, _, behind) := delimiter none rest
            (text, true, behind)
          else
            let (text, isQuoted, behind) := delimiter quotes? rest
            (c :: text, isQuoted, behind)
      | none =>
          if Word.endsWord c then ([], false, c :: rest)
          else if c = '"' ∨ c = '\'' then delimiter (some c) rest
          else if c = '\\' then
            let (text, _, behind) := delimiter none rest
            (text, true, behind)
          else
            let (text, isQuoted, behind) := delimiter none rest
            (c :: text, isQuoted, behind)

/-- The lines up to the one that ends a document, and the text behind that line. -/
def documentLines (ending : Text) (dropsTabs : Bool) : List Text → Text × List Text
  | [] => ([], [])
  | line :: rest =>
      let line := if dropsTabs then line.dropWhile (· = '\t') else line
      if line = ending then ([], rest)
      else if rest = [] then (line, [])
      else
        let (text, behind) := documentLines ending dropsTabs rest
        (line ++ '\n' :: text, behind)

/-- A document starts on the next line. Its text is taken out of the script. -/
def takeDocument (ending : Text) (dropsTabs : Bool) (script : Text) : Text × Text :=
  match Text.splitAt? '\n' script with
  | none => ([], script)
  | some (line, rest) =>
      let (document, behind) := documentLines ending dropsTabs (Text.pieces (· = '\n') rest)
      (document, line ++ '\n' :: Text.join ['\n'] behind)

end Promptline.Shell
