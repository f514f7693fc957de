/-
This file reads the scripts that edit streams.
-/

import Promptline.Program.Regex.Reader
import Promptline.Program.Stream

namespace Promptline

/-- The number of the last group of an expression. -/
def Regex.lastGroup : Regex → Nat
  | .sequence first second | .choice first second => max first.lastGroup second.lastGroup
  | .repeated _ _ body => body.lastGroup
  | .group index body => max index body.lastGroup
  | _ => 0

namespace StreamScript

def isBlank (c : Char) : Bool := c = ' ' || c = '\t'

def skipBlanks (text : Text) : Text := text.dropWhile isBlank

/-- What stands in front of an unescaped delimiter, and the text behind it. An escaped delimiter
stands for itself, and in an expression an escaped n for a line end. -/
def delimited? (delimiter : Char) (isRegex : Bool) : Text → Option (Text × Text)
  | [] => none
  | '\\' :: c :: rest => do
      let (inner, behind) ← delimited? delimiter isRegex rest
      if c = 'n' ∧ isRegex then return ('\n' :: inner, behind)
      if c = '\n' ∨ (c = delimiter ∧ (isRegex ∨ c ≠ '&')) then return (c :: inner, behind)
      return ('\\' :: c :: inner, behind)
  | c :: rest =>
      if c = delimiter then some ([], rest)
      else if c = '\n' then none
      else (delimited? delimiter isRegex rest).map fun (inner, behind) => (c :: inner, behind)

/-- The control character of an escaped letter. -/
def control? : Char → Option Char
  | 'a' => some '\x07'
  | 'f' => some '\x0c'
  | 'r' => some '\r'
  | 't' => some '\t'
  | 'v' => some '\x0b'
  | _ => none

/-- An expression with control characters for escaped letters. -/
def withControls : Text → Text
  | '\\' :: c :: rest =>
      match control? c with
      | some found => found :: withControls rest
      | none => '\\' :: c :: withControls rest
  | c :: rest => c :: withControls rest
  | [] => []

def regex? (extended foldsCase : Bool) (text : Text) : Option StreamRegex :=
  if text = [] then some ⟨none, foldsCase⟩
  else (Regex.read? extended false (withControls text)).map fun regex => ⟨some regex, foldsCase⟩

/-- The letters behind the expression of an address tell how it is compared. -/
def regexAddress? (extended : Bool) (delimiter : Char) (text : Text) :
    Option (StreamAddress × Text) := do
  let (inner, rest) ← delimited? delimiter true text
  let flags := rest.takeWhile fun c => c = 'I' || c = 'M'
  let regex ← regex? extended (flags.contains 'I') inner
  return (.regex regex, rest.drop flags.length)

/-- The address at the start of a text. There may be none. -/
def address? (extended : Bool) (text : Text) : Option (Option StreamAddress × Text) :=
  match text with
  | '$' :: rest => some (some .last, rest)
  | '/' :: rest =>
      (regexAddress? extended '/' rest).map fun (address, rest) => (some address, rest)
  | '\\' :: delimiter :: rest =>
      (regexAddress? extended delimiter rest).map fun (address, rest) => (some address, rest)
  | text =>
      let (digits, rest) := Integer.digits 10 text
      let number := Integer.natural 10 digits
      if digits = [] then some (none, text)
      else match rest with
        | '~' :: rest =>
            let (size, rest) := Integer.digits 10 rest
            some (some (.step number (Integer.natural 10 size)), rest)
        | rest => some (some (.line number), rest)

def end? (extended : Bool) (text : Text) : Option (StreamEnd × Text) :=
  let counted (make : Nat → StreamEnd) (rest : Text) : Option (StreamEnd × Text) :=
    let (digits, rest) := Integer.digits 10 rest
    if digits = [] then none else some (make (Integer.natural 10 digits), rest)
  match text with
  | '+' :: rest => counted .count rest
  | '~' :: rest => counted .multiple rest
  | text => do
      let (address?, rest) ← address? extended text
      return (.address (← address?), rest)

/-- Line zero is in front of a range that an expression ends. -/
def isSound (selector : StreamSelector) : Bool :=
  match selector.first?, selector.stop? with
  | some (.line 0), some (.address (.regex _)) => true
  | some (.line 0), _ => false
  | _, _ => true

def selector? (extended : Bool) (text : Text) : Option (StreamSelector × Text) := do
  let (first?, rest) ← address? extended text
  let rest := if first?.isSome then skipBlanks rest else rest
  let (stop?, rest) ←
    match first?, rest with
    | some _, ',' :: rest => (end? extended (skipBlanks rest)).map fun (stop, rest) =>
        (some stop, rest)
    | _, rest => some (none, rest)
  let rest := skipBlanks rest
  let negated := rest.head? = some '!'
  let selector : StreamSelector := ⟨first?, stop?, negated⟩
  if !isSound selector then none
  return (selector, rest.dropWhile fun c => c = '!' || isBlank c)

/-- The parts of a replacement. -/
def replacement : Text → List ReplacementPart
  | [] => []
  | '&' :: rest => .group 0 :: replacement rest
  | '\\' :: c :: rest =>
      let part : ReplacementPart :=
        match c with
        | 'n' => .text ['\n']
        | 'L' => .turn (some .lower)
        | 'U' => .turn (some .upper)
        | 'E' => .turn none
        | 'l' => .turnNext .lower
        | 'u' => .turnNext .upper
        | c =>
            if c.isDigit then .group (c.toNat - '0'.toNat)
            else .text [(control? c).getD c]
      part :: replacement rest
  | c :: rest => .text [c] :: replacement rest

/-- The parts that stand for groups have to be there. -/
def isAnswered (regex : StreamRegex) (parts : List ReplacementPart) : Bool :=
  parts.all fun
    | .group index => regex.regex?.all fun regex => index ≤ regex.lastGroup
    | _ => true

/-- The letters behind a substitution. -/
structure Flags where
  number? : Option Nat
  letters : List Char
  file? : Option Text

def flags? : Nat → Flags → Text → Option (Flags × Text)
  | 0, _, _ => none
  | fuel + 1, flags, text =>
      match text with
      | 'w' :: rest =>
          let path := (skipBlanks rest).takeWhile (· ≠ '\n')
          if path = [] then none
          else some ({ flags with file? := some path }, rest.dropWhile (· ≠ '\n'))
      | c :: rest =>
          if "gpiImM".toList.contains c then
            if flags.letters.contains c ∧ (c = 'g' ∨ c = 'p') then none
            else flags? fuel { flags with letters := c :: flags.letters } rest
          else if c.isDigit then
            let (digits, rest) := Integer.digits 10 text
            let number := Integer.natural 10 digits
            if number = 0 ∨ flags.number?.isSome then none
            else flags? fuel { flags with number? := some number } rest
          else some (flags, text)
      | [] => some (flags, [])

def substitution? (extended : Bool) (text : Text) : Option (StreamCommand × Text) := do
  let delimiter ← text.head?
  if delimiter = '\n' ∨ delimiter = '\\' then none
  let (pattern, rest) ← delimited? delimiter true (text.drop 1)
  let (written, rest) ← delimited? delimiter false rest
  let (flags, rest) ← flags? (rest.length + 1) ⟨none, [], none⟩ rest
  let foldsCase := flags.letters.any fun c => c = 'i' || c = 'I'
  let regex ← regex? extended foldsCase pattern
  let parts := replacement written
  if !isAnswered regex parts then none
  return (.substitute {
    regex
    replacement := parts
    number := flags.number?.getD 1
    all := flags.letters.contains 'g'
    prints := flags.letters.contains 'p'
    file? := flags.file? }, rest)

/-- The characters of a list in which backslashes keep characters together. -/
def listed? : Text → Option Text
  | [] => some []
  | '\\' :: c :: rest => do
      let others ← listed? rest
      if c = '\\' then return c :: others
      if c = 'n' then return '\n' :: others
      match control? c with
      | some found => return found :: others
      | none => return '\\' :: c :: others
  | c :: rest => (listed? rest).map (c :: ·)

def exchange? (text : Text) : Option (StreamCommand × Text) := do
  let delimiter ← text.head?
  let (before, rest) ← delimited? delimiter false (text.drop 1)
  let (after, rest) ← delimited? delimiter false rest
  let before ← listed? before
  let after ← listed? after
  if before.length ≠ after.length then none
  return (.exchange (before.zip after), rest)

/-- A text that goes on over escaped line ends. -/
def block : Text → Text × Text
  | [] => ([], [])
  | '\\' :: c :: rest =>
      let (inner, behind) := block rest
      (c :: inner, behind)
  | '\n' :: rest => ([], '\n' :: rest)
  | c :: rest =>
      let (inner, behind) := block rest
      (c :: inner, behind)

/-- The text of a command that writes one. -/
def writtenText? (text : Text) : Option (Text × Text) :=
  let start :=
    match skipBlanks text with
    | '\\' :: rest =>
        match skipBlanks rest with
        | '\n' :: behind => behind
        | _ => rest
    | rest => rest
  if start = [] then none
  else
    let (inner, rest) := block start
    some (inner ++ ['\n'], rest)

/-- A command ends at a line end, a semicolon, a brace or a comment. -/
def ended? (text : Text) : Option Text :=
  match skipBlanks text with
  | [] => some []
  | c :: rest =>
      if c = ';' ∨ c = '\n' then some rest
      else if c = '}' ∨ c = '#' then some (c :: rest) else none

def word (ends : Char → Bool) (text : Text) : Text × Text :=
  (skipBlanks text).span fun c => !(c = '\n' || c = ';' || isBlank c || ends c)

/-- The rest of a line. -/
def path? (make : Text → StreamCommand) (text : Text) : Option (StreamCommand × Text) :=
  let (path, rest) := (skipBlanks text).span (· ≠ '\n')
  if path = [] then none else some (make path, rest)

/-- The command at the start of a text, and what follows its end. -/
def command? (extended : Bool) (text : Text) : Option (StreamCommand × Text) := do
  let finish (found : StreamCommand × Text) : Option (StreamCommand × Text) :=
    (ended? found.2).map fun rest => (found.1, rest)
  match text with
  | [] => none
  | c :: rest =>
      match c with
      | '{' => some (.opening, rest)
      | '}' => finish (.closing, rest)
      | ':' =>
          let (name, rest) := word (fun _ => false) rest
          if name = [] then none else finish (.label name, rest)
      | 'b' => finish (let (name, rest) := word (· = '}') rest; (.branch none name, rest))
      | 't' => finish (let (name, rest) := word (· = '}') rest; (.branch (some true) name, rest))
      | 'T' => finish (let (name, rest) := word (· = '}') rest; (.branch (some false) name, rest))
      | 's' => finish (← substitution? extended rest)
      | 'y' => finish (← exchange? rest)
      | 'a' => (writtenText? rest).map fun (text, rest) => (.append text, rest)
      | 'i' => (writtenText? rest).map fun (text, rest) => (.insert text, rest)
      | 'c' => (writtenText? rest).map fun (text, rest) => (.change text, rest)
      | 'r' => path? .readFile rest
      | 'w' => path? .writeFile rest
      | c =>
          if c = 'q' ∨ c = 'Q' then
            let (digits, rest) := Integer.digits 10 (skipBlanks rest)
            finish (.quit (Integer.natural 10 digits) (c = 'q'), rest)
          else if c = 'l' then
            finish (.letter c, (Integer.digits 10 (skipBlanks rest)).2)
          else if "=dDgGhHxzpPFnN".toList.contains c then finish (.letter c, rest)
          else none

/-- The steps in their order. -/
def steps? (extended : Bool) : Nat → Text → Option (List (StreamSelector × StreamCommand))
  | 0, _ => none
  | fuel + 1, text =>
      match text.dropWhile fun c => c = ';' || c = '\n' || isBlank c with
      | [] => some []
      | '#' :: rest => steps? extended fuel (rest.dropWhile (· ≠ '\n'))
      | text => do
          let (selector, rest) ← selector? extended text
          let (command, rest) ← command? extended rest
          if selector.first?.isSome ∧ command = .closing then none
          let others ← steps? extended fuel rest
          return (selector, command) :: others

/-- The step behind the end of the block that opens in front of some steps. -/
def blockEnd? (depth index : Nat) : List (StreamSelector × StreamCommand) → Option Nat
  | [] => none
  | (_, .opening) :: rest => blockEnd? (depth + 1) (index + 1) rest
  | (_, .closing) :: rest =>
      if depth = 0 then some (index + 1) else blockEnd? (depth - 1) (index + 1) rest
  | _ :: rest => blockEnd? depth (index + 1) rest

/-- Blocks are closed as often as they are opened. -/
def isBalanced (depth : Nat) : List (StreamSelector × StreamCommand) → Bool
  | [] => depth = 0
  | (_, .opening) :: rest => isBalanced (depth + 1) rest
  | (_, .closing) :: rest => depth ≠ 0 && isBalanced (depth - 1) rest
  | _ :: rest => isBalanced depth rest

/-- The step that a command leads to. -/
def target? (all : List (StreamSelector × StreamCommand)) (index : Nat) :
    StreamCommand → Option Nat
  | .opening => blockEnd? 0 (index + 1) (all.drop (index + 1))
  | .branch _ [] => some all.length
  | .branch _ name => all.findIdx? fun step => step.2 = .label name
  | _ => some (index + 1)

/-- Why a text is no script. -/
inductive Fault where
  | malformed
  | missingLabel
  deriving DecidableEq, Repr

/-- The script that a text denotes. -/
def ofText (extended quiet : Bool) (text : Text) : Except Fault StreamScript := do
  let quiet := quiet || text.take 3 = ['#', 'n', '\n'] || text = ['#', 'n']
  match steps? extended (text.length + 1) text with
  | none => throw .malformed
  | some all =>
      if !isBalanced 0 all then throw .malformed
      let steps ← all.zipIdx.mapM fun ((selector, command), index) =>
        match target? all index command with
        | some target => return (⟨selector, command, target⟩ : StreamStep)
        | none => throw .missingLabel
      return ⟨steps.toArray, quiet⟩

end StreamScript

end Promptline
