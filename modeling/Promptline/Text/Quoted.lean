/-
This file writes words so that a command line reads them back, and splits command lines into words.
Single quotes keep everything, double quotes keep all but a few escapes, and a backslash outside
quotes keeps the next character.
-/

import Promptline.Text.Blank

namespace Promptline.Text

/-- These characters need no quotes. -/
def isPlain (c : Char) : Bool := c.isAlphanum || "_-./:=@,+%".toList.contains c

/-- A quote inside single quotes closes them, stands escaped and opens them again. -/
def escapeQuote (c : Char) : Text := if c = '\'' then ['\'', '\\', '\'', '\''] else [c]

/-- A word of plain characters is written as it is, and any other in single quotes. -/
def quote (word : Text) : Text :=
  if word ≠ [] ∧ word.all isPlain then word
  else '\'' :: word.flatMap escapeQuote ++ ['\'']

inductive QuoteMark where
  | none
  | single
  | double
  deriving DecidableEq, Repr

/-- The words so far and the open word, if any, all in reverse. -/
structure Splitting where
  words : List Text
  open? : Option Text
  deriving DecidableEq, Repr

namespace Splitting

def push (state : Splitting) (c : Char) : Splitting :=
  { state with open? := some (c :: state.open?.getD []) }

/-- A quote opens a word, which may stay empty. -/
def opened (state : Splitting) : Splitting := { state with open? := some (state.open?.getD []) }

def close (state : Splitting) : Splitting :=
  match state.open? with
  | none => state
  | some word => ⟨word.reverse :: state.words, none⟩

end Splitting

/-- A backslash in double quotes escapes only these characters. -/
def isDoubleEscaped (c : Char) : Bool := c = '"' || c = '\\' || c = '$' || c = '\x60'

/-- The words of the rest of a line. A quote that stays open gives none. -/
def splitFrom? (mark : QuoteMark) (state : Splitting) : Text → Option (List Text)
  | [] => if mark = .none then some state.close.words.reverse else none
  | c :: rest =>
      match mark with
      | .single =>
          if c = '\'' then splitFrom? .none state rest else splitFrom? .single (state.push c) rest
      | .double =>
          if c = '"' then splitFrom? .none state rest
          else if c = '\\' then
            match rest with
            | [] => none
            | d :: rest =>
                if isDoubleEscaped d then splitFrom? .double (state.push d) rest
                else splitFrom? .double ((state.push '\\').push d) rest
          else splitFrom? .double (state.push c) rest
      | .none =>
          if c = '\'' then splitFrom? .single state.opened rest
          else if c = '"' then splitFrom? .double state.opened rest
          else if c = '\\' then
            match rest with
            | [] => splitFrom? .none state.opened []
            | d :: rest => splitFrom? .none (state.push d) rest
          else if isBlank c then splitFrom? .none state.close rest
          else splitFrom? .none (state.push c) rest

/-- The words of a command line. -/
def splitWords? (line : Text) : Option (List Text) := splitFrom? .none ⟨[], none⟩ line

end Promptline.Text
