/-
This file reads words of the shell from a script. What a character means depends on the quotes,
braces and parentheses around it.
-/

import Promptline.Shell.Word

namespace Promptline.Shell

/-- The text around the characters that are read. -/
inductive Surrounding where
  | word
  /-- Double quotes, perhaps with a brace around them. -/
  | quotes (braced : Bool)
  /-- The word of a parameter, perhaps with double quotes around it. -/
  | brace (quoted : Bool)
  | arithmetic (depth : Nat)
  | document
  deriving DecidableEq, Repr

/-- How scripts inside of words are read. -/
structure NestedScripts where
  /-- The text behind a script and its closing parenthesis. -/
  behind : Text → Except SyntaxFault Text
  /-- The text is a script. -/
  check : Text → Except SyntaxFault Unit

namespace Surrounding

def isQuoted : Surrounding → Bool
  | word | brace false => false
  | _ => true

def isBraced : Surrounding → Bool
  | quotes braced => braced
  | brace _ => true
  | _ => false

/-- The fault of a script that ends here. -/
def openFault? : Surrounding → Option SyntaxFault
  | word | document => none
  | brace false => some .openBrace
  | arithmetic _ => some .openParentheses
  | _ => some .openQuote

/-- The characters that keep a backslash from standing for itself in quotes. -/
def isEscapable (surrounding : Surrounding) (c : Char) : Bool :=
  c = '\\' || c = '\x60' || c = '$' || (c = '"' && surrounding ≠ document) ||
    (c = '}' && surrounding.isBraced)

end Surrounding

namespace Word

/-- A backslash joins a line with the next one. -/
def skipJoins : Text → Text
  | '\\' :: '\n' :: rest => skipJoins rest
  | text => text

/-- These characters end a word. -/
def endsWord (c : Char) : Bool := " \t\n;&|<>()".toList.contains c

/-- The script up to a backquote, and the text behind it. -/
def backquoted (quoted : Bool) : Text → Except SyntaxFault (Text × Text)
  | [] => .error .openBackquote
  | '\x60' :: rest => .ok ([], rest)
  | '\\' :: '\n' :: rest => backquoted quoted rest
  | '\\' :: c :: rest => do
      let (script, behind) ← backquoted quoted rest
      let kept := c ≠ '\\' && c ≠ '\x60' && c ≠ '$' && !(quoted && c = '"')
      return (if kept then '\\' :: c :: script else c :: script, behind)
  | c :: rest => do
      let (script, behind) ← backquoted quoted rest
      return (c :: script, behind)

/-- What an operator in braces asks for. -/
inductive Use where
  | plain
  | length
  | fallback (kind : Fallback) (emptyToo : Bool)
  | trim (atEnd longest : Bool)
  | invalid
  deriving DecidableEq, Repr

/-- The part for a parameter, with the word behind its operator. -/
def Use.part (quoted : Bool) (name : Text) (word : Word) : Use → Part
  | plain => .value quoted name
  | length => .length quoted name
  | fallback kind emptyToo => .fallback quoted name kind emptyToo word
  | trim atEnd longest => .trim quoted name atEnd longest word
  | invalid => .invalid

def fallback? : Char → Option Fallback
  | '-' => some .use
  | '+' => some .replace
  | '?' => some .complain
  | '=' => some .assign
  | _ => none

/-- The operator behind a name, and the text behind the operator. A plain use has its closing brace
with it. -/
def operator (text : Text) : Use × Text :=
  match skipJoins text with
  | '}' :: rest => (.plain, rest)
  | ':' :: rest =>
      match skipJoins rest with
      | [] => (.invalid, [])
      | c :: rest =>
          match fallback? c with
          | some kind => (.fallback kind true, rest)
          | none => (.invalid, rest)
  | '%' :: rest =>
      match skipJoins rest with
      | '%' :: rest => (.trim true true, rest)
      | rest => (.trim true false, rest)
  | '#' :: rest =>
      match skipJoins rest with
      | '#' :: rest => (.trim false true, rest)
      | rest => (.trim false false, rest)
  | c :: rest =>
      match fallback? c with
      | some kind => (.fallback kind false, rest)
      | none => (.invalid, rest)
  | [] => (.invalid, [])

/-- The characters of a kind at the start, where joined lines do not count. -/
def takeRun (holds : Char → Bool) : Nat → Text → Text × Text
  | 0, text => ([], text)
  | fuel + 1, text =>
      match skipJoins text with
      | [] => ([], [])
      | c :: rest =>
          if holds c then
            let (run, behind) := takeRun holds fuel rest
            (c :: run, behind)
          else ([], c :: rest)

/-- A name or a number at the start. -/
def parameterName (text : Text) : Text × Text :=
  match skipJoins text with
  | [] => ([], [])
  | c :: rest =>
      takeRun (if isNameStart c then isNamePart else Char.isDigit) (rest.length + 1) (c :: rest)

/-- The parameter behind an opening brace, its use and the text behind the operator. -/
def braced (text : Text) : Text × Use × Text :=
  match skipJoins text with
  | [] => ([], .invalid, [])
  | c :: rest =>
      if c = '}' then ([], .invalid, c :: rest)
      else if c.isAlphanum || c = '_' then
        let (name, behind) := parameterName (c :: rest)
        (name, operator behind)
      else if c = '#' then
        match skipJoins rest with
        | [] => (['#'], operator [])
        | d :: behind =>
            if d.isAlphanum || d = '_' then
              let (name, behind) := parameterName (d :: behind)
              (name, if (skipJoins behind).head? = some '}' then .length else .invalid, behind)
            else if d ≠ '}' ∧ (skipJoins behind).head? = some '}' then
              if isSpecial d then ([d], .length, skipJoins behind)
              else ([], .invalid, skipJoins behind)
            else (['#'], operator (d :: behind))
      else if isSpecial c then ([c], operator rest)
      else ([], .invalid, skipJoins rest)

/-- The text behind a single quote and the closing one. -/
def singleQuoted : Text → Except SyntaxFault (Text × Text)
  | [] => .error .openQuote
  | '\'' :: rest => .ok ([], rest)
  | c :: rest => do
      let (text, behind) ← singleQuoted rest
      return (c :: text, behind)

abbrev Reading := Except SyntaxFault (Word × Text)

/-- The part that a dollar sign introduces, and the text behind it. -/
def substitution (nested : NestedScripts) (inner : Surrounding → Text → Reading)
    (surrounding : Surrounding) (text : Text) : Except SyntaxFault (Part × Text) :=
  let quoted := surrounding.isQuoted
  match skipJoins text with
  | [] => .ok (.text quoted ['$'], [])
  | '(' :: rest =>
      match skipJoins rest with
      | '(' :: rest => do
          let (expression, behind) ← inner (.arithmetic 0) rest
          return (.number quoted expression, behind)
      | rest => do
          let behind ← nested.behind rest
          return (.output quoted (rest.take (rest.length - behind.length - 1)), behind)
  | '{' :: rest => do
      let (name, use, behind) := braced rest
      if use = .plain then return (.value quoted name, behind)
      let surrounding := match use with
        | .trim _ _ => .brace false
        | _ => .brace quoted
      let (word, behind) ← inner surrounding behind
      return (use.part quoted name word, behind)
  | c :: rest =>
      if isNameStart c then
        let (name, behind) := parameterName (c :: rest)
        .ok (.value quoted name, behind)
      else if isSpecial c then .ok (.value quoted [c], rest)
      else .ok (.text quoted ['$'], c :: rest)

/-- The parts up to the end of what surrounds them, and the text behind that end. -/
def readWithin (nested : NestedScripts) : Nat → Surrounding → Text → Reading
  | 0, _, _ => .error .openQuote
  | fuel + 1, surrounding, text =>
      let quoted := surrounding.isQuoted
      let more (surrounding : Surrounding) (add : Word → Word) (rest : Text) : Reading := do
        let (word, behind) ← readWithin nested fuel surrounding rest
        return (add word, behind)
      let literal (c : Char) (rest : Text) : Reading :=
        more surrounding (addText quoted [c]) rest
      match skipJoins text with
      | [] =>
          match surrounding.openFault? with
          | some fault => .error fault
          | none => .ok ([], [])
      | '\\' :: rest =>
          match rest with
          | [] => more surrounding (addText true ['\\']) []
          | c :: rest =>
              if quoted ∧ !surrounding.isEscapable c then
                more surrounding (addText true ['\\', c]) rest
              else more surrounding (addText true [c]) rest
      | '$' :: rest => do
          let (part, behind) ← substitution nested (readWithin nested fuel) surrounding rest
          match part with
          | .text quoted text => more surrounding (addText quoted text) behind
          | part => more surrounding (part :: ·) behind
      | '\x60' :: rest => do
          let (script, behind) ← backquoted quoted rest
          nested.check script
          more surrounding (.output quoted script :: ·) behind
      | c :: rest =>
          match surrounding with
          | .word | .brace false =>
              if surrounding = .word ∧ endsWord c then .ok ([], c :: rest)
              else if surrounding ≠ .word ∧ c = '}' then .ok ([], rest)
              else if c = '\'' then do
                let (inside, behind) ← singleQuoted rest
                more surrounding (fun word =>
                  .quote :: (if inside = [] then [] else [.text true inside]) ++
                    .quote :: word) behind
              else if c = '"' then do
                let (inside, behind) ← readWithin nested fuel (.quotes (surrounding ≠ .word)) rest
                more surrounding (fun word => .quote :: inside ++ .quote :: word) behind
              else literal c rest
          | .quotes _ => if c = '"' then .ok ([], rest) else literal c rest
          | .brace true =>
              if c = '}' then .ok ([], rest)
              else if c = '"' then do
                let (inside, behind) ← readWithin nested fuel (.quotes true) rest
                more surrounding (fun word => inside ++ word) behind
              else literal c rest
          | .arithmetic depth =>
              if c = '(' then more (.arithmetic (depth + 1)) (addText quoted [c]) rest
              else if c = ')' then
                match depth, skipJoins rest with
                | depth + 1, rest => more (.arithmetic depth) (addText quoted [c]) rest
                | 0, ')' :: rest => .ok ([], rest)
                | 0, rest => literal c rest
              else literal c rest
          | .document => literal c rest

/-- The parts up to the end of what surrounds them. -/
def read (nested : NestedScripts) (surrounding : Surrounding) (text : Text) : Reading :=
  readWithin nested (text.length + 1) surrounding text

end Word

end Promptline.Shell
