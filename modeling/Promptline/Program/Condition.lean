/-
This file evaluates conditions on texts, numbers and files. The shell and the program that test
conditions read them by different rules.
-/

import Promptline.Program.Work
import Promptline.Program.Integer

namespace Promptline

/-- What conditions on files look at. -/
structure Surroundings where
  files : FileTree
  directory : Place

inductive ConditionFault where
  | expectedArgument
  | expectedClose
  | unexpectedOperator
  | illegalNumber (text : Text)
  deriving DecidableEq, Repr

namespace Surroundings

def node? (surroundings : Surroundings) (path : Text) : Option Node :=
  (surroundings.files.find surroundings.directory path).toOption.map Prod.snd

def place? (surroundings : Surroundings) (path : Text) : Option Place :=
  (surroundings.files.find surroundings.directory path).toOption.map Prod.fst

/-- The path itself is a link. -/
def isLink (surroundings : Surroundings) (path : Text) : Bool :=
  let names := Place.names path
  let start := if path.head? = some '/' then [] else surroundings.directory
  match surroundings.files.walk start names.dropLast, names.getLast? with
  | .ok place, some name =>
      match surroundings.files.node? (place ++ [name]) with
      | some (.link _) => true
      | _ => false
  | _, _ => false

/-- The condition of a letter on a path. -/
def holds (surroundings : Surroundings) (letter : Char) (path : Text) : Bool :=
  match letter, surroundings.node? path with
  | 'h', _ | 'L', _ => surroundings.isLink path
  | _, none => false
  | 'd', some node => node = .directory
  | 'f', some node => match node with
      | .file _ | .program => true
      | _ => false
  | 's', some node => match node with
      | .file content => content ≠ []
      | .directory | .program => true
      | _ => false
  | 'x', some node => node = .directory || node = .program
  | 'c', some node => match node with
      | .device _ => true
      | _ => false
  | 'e', some _ | 'r', some _ | 'w', some _ | 'O', some _ | 'G', some _ => true
  | 'k', some _ => surroundings.place? path = some [Text.of "tmp"]
  | _, some _ => false

/-- The letters of conditions on paths. -/
def letters : List Char := "bcdefghkprsuwxGLOS".toList

end Surroundings

namespace Condition

/-- The order of bytes decides between texts. -/
def isBefore (first second : Text) : Bool := first ≠ second && Text.le first second

def comparisons : List (String × (Int → Int → Bool)) :=
  [("-eq", fun a b => a = b), ("-ne", fun a b => a ≠ b), ("-gt", fun a b => b < a),
    ("-ge", fun a b => b ≤ a), ("-lt", fun a b => a < b), ("-le", fun a b => a ≤ b)]

/-- The operators that stand between two texts. -/
def isBinary (word : Text) : Bool :=
  let word := String.ofList word
  ["=", "!=", "<", ">", "-nt", "-ot", "-ef"].contains word ||
    (comparisons.map Prod.fst).contains word

def unaryLetter? : Text → Option Char
  | ['-', letter] =>
      if Surroundings.letters.contains letter || ['n', 'z', 't'].contains letter then some letter
      else none
  | _ => none

/-- No descriptor leads to a terminal. -/
def unary (surroundings : Surroundings) (letter : Char) (operand : Text) : Bool :=
  match letter with
  | 'n' => operand ≠ []
  | 'z' => operand = []
  | 't' => false
  | letter => surroundings.holds letter operand

/-- The number of a text, with blanks around it. -/
def number (text : Text) : Except ConditionFault Int :=
  match Integer.ofText? (some 10) text with
  | some number => .ok number
  | none => .error (.illegalNumber text)

def binary (surroundings : Surroundings) (operator left right : Text) :
    Except ConditionFault Bool :=
  match String.ofList operator with
  | "=" | "==" => .ok (left = right)
  | "!=" => .ok (left ≠ right)
  | "<" => .ok (isBefore left right)
  | ">" => .ok (isBefore right left)
  | "-nt" => .ok ((surroundings.node? left).isSome && (surroundings.node? right).isNone)
  | "-ot" => .ok ((surroundings.node? right).isSome && (surroundings.node? left).isNone)
  | "-ef" =>
      .ok ((surroundings.place? left).isSome &&
        surroundings.place? left = surroundings.place? right)
  | operator =>
      match comparisons.lookup operator with
      | some compare => do return compare (← number left) (← number right)
      | none => .error .unexpectedOperator

/-! The rules of the shell: operators are told from operands by what stands next to them. -/

inductive Lexeme where
  | finish
  | operand
  | unary (letter : Char)
  | binary
  | not
  | and
  | or
  | open_
  | close
  deriving DecidableEq, Repr

def operator? (word : Text) : Option Lexeme :=
  match String.ofList word with
  | "!" => some .not
  | "-a" => some .and
  | "-o" => some .or
  | "(" => some .open_
  | ")" => some .close
  | _ => if isBinary word then some .binary else (unaryLetter? word).map .unary

/-- The meaning of the first word. -/
def lexeme : List Text → Lexeme
  | [] => .finish
  | word :: rest =>
      match operator? word with
      | none => .operand
      | some (.unary letter) =>
          match rest with
          | [] => .operand
          | [_] => .unary letter
          | next :: _ => if operator? next = some .binary then .operand else .unary letter
      | some .open_ => if rest = [] then .operand else .open_
      | some other => other

abbrev Judged := Except ConditionFault (Bool × List Text)

/-- A condition without logical operators, with the words from its last one on. -/
def primary (surroundings : Surroundings) (inner : Lexeme → List Text → Judged)
    (lexeme_ : Lexeme) (words : List Text) : Judged :=
  match lexeme_ with
  | .finish => .ok (false, words)
  | .open_ =>
      let words := words.tail
      match lexeme words with
      | .close => .ok (false, words)
      | next => do
          let (value, words) ← inner next words
          if lexeme words.tail ≠ .close then throw .expectedClose
          return (value, words.tail)
  | .unary letter =>
      match words.tail with
      | [] => .error .expectedArgument
      | operand :: rest => .ok (unary surroundings letter operand, operand :: rest)
  | _ =>
      match words with
      | left :: operator :: rest =>
          if lexeme (operator :: rest) = .binary then
            match rest with
            | [] => .error .expectedArgument
            | right :: rest => do
                return (← binary surroundings operator left right, right :: rest)
          else .ok (left ≠ [], words)
      | [only] => .ok (only ≠ [], words)
      | [] => .ok (false, words)

def negation (surroundings : Surroundings) (inner : Lexeme → List Text → Judged) :
    Nat → Lexeme → List Text → Judged
  | 0, _, words => .ok (false, words)
  | fuel + 1, lexeme_, words =>
      if lexeme_ = .not then do
        let next := lexeme words.tail
        let (value, words) ←
          negation surroundings inner fuel next (if next = .finish then words else words.tail)
        return (!value, words)
      else primary surroundings inner lexeme_ words

def conjunction (operand : Lexeme → List Text → Judged) : Nat → Lexeme → List Text → Judged
  | 0, _, words => .ok (true, words)
  | fuel + 1, lexeme_, words => do
      let (value, words) ← operand lexeme_ words
      if lexeme words.tail = .and then
        let rest := words.tail.tail
        let (others, words) ← conjunction operand fuel (lexeme rest) rest
        return (value && others, words)
      return (value, words)

def disjunction (operand : Lexeme → List Text → Judged) : Nat → Lexeme → List Text → Judged
  | 0, _, words => .ok (false, words)
  | fuel + 1, lexeme_, words => do
      let (value, words) ← operand lexeme_ words
      if lexeme words.tail = .or then
        let rest := words.tail.tail
        let (others, words) ← disjunction operand fuel (lexeme rest) rest
        return (value || others, words)
      return (value, words)

def judgeWithin (surroundings : Surroundings) : Nat → Lexeme → List Text → Judged
  | 0, _, words => .ok (false, words)
  | fuel + 1, lexeme_, words =>
      let size := words.length + 1
      disjunction (conjunction
        (negation surroundings (judgeWithin surroundings fuel) size) size) size lexeme_ words

/-- The whole condition. Two words that are left over are a fault. -/
def judgeAs (surroundings : Surroundings) (lexeme_ : Lexeme) (words : List Text) :
    Except ConditionFault Bool := do
  let (value, rest) ← judgeWithin surroundings (words.length + 1) lexeme_ words
  match rest with
  | _ :: _ :: _ => throw .unexpectedOperator
  | _ => return value

/-- The condition that words make up for the shell. Up to four of them are told apart by their
number. -/
def ofShell (surroundings : Surroundings) (words : List Text) : Except ConditionFault Bool :=
  match words with
  | [] => .ok false
  | first :: rest =>
      let special := words.length = 3 ∨ words.length = 4
      if words.length = 3 ∧ (rest.head?.bind operator?) = some .binary then
        judgeAs surroundings .operand words
      else if special ∧ first = ['('] ∧ words.getLast? = some [')'] then
        let inside := rest.dropLast
        judgeAs surroundings (lexeme inside) inside
      else if special ∧ first = ['!'] then do return !(← ofShell surroundings rest)
      else judgeAs surroundings (lexeme words) words

/-! The rules of the program: the number of words decides, and longer conditions are read from left
to right. -/

def isProgramBinary (word : Text) : Bool := isBinary word || word = Text.of "=="

/-- A number may have any size here. -/
def programBinary (surroundings : Surroundings) (operator left right : Text) :
    Except ConditionFault Bool := do
  let number (text : Text) : Except ConditionFault Int :=
    match Integer.read? (some 10) text with
    | some reading =>
        if reading.rest.all Integer.isBlank then .ok reading.value
        else .error (.illegalNumber text)
    | none => .error (.illegalNumber text)
  match comparisons.lookup (String.ofList operator) with
  | some compare => return compare (← number left) (← number right)
  | none => binary surroundings operator left right

def programUnary (surroundings : Surroundings) (operator operand : Text) :
    Except ConditionFault Bool :=
  match unaryLetter? operator with
  | some letter => .ok (unary surroundings letter operand)
  | none =>
      if operator = Text.of "-N" then .ok false else .error .unexpectedOperator

def looksUnary : Text → Bool
  | ['-', _] => true
  | _ => false

def programTwo (surroundings : Surroundings) (first second : Text) : Except ConditionFault Bool :=
  if first = ['!'] then .ok (second = [])
  else if looksUnary first then programUnary surroundings first second
  else .error .expectedArgument

/-- A condition in front, and the words behind it. -/
def programTerm (surroundings : Surroundings)
    (counted : Nat → List Text → Judged) : Bool → List Text → Judged
  | _, [] => .error .expectedArgument
  | negated, first :: rest =>
      if first = ['!'] then programTerm surroundings counted (!negated) rest
      else do
        let (value, rest) ←
          if first = ['('] then do
            let count := rest.takeWhile (· ≠ [')'])
            let count := max 1 count.length
            let (value, behind) ← counted (if 4 < count then rest.length else count) rest
            match behind with
            | [')'] :: behind => pure (value, behind)
            | _ => throw .expectedClose
          else match rest with
            | operator :: right :: behind =>
                if isProgramBinary operator then do
                  pure (← programBinary surroundings operator first right, behind)
                else if looksUnary first then do
                  pure (← programUnary surroundings first operator, right :: behind)
                else pure (first ≠ [], rest)
            | [operand] =>
                if looksUnary first then do
                  pure (← programUnary surroundings first operand, [])
                else pure (first ≠ [], rest)
            | [] => if looksUnary first then throw .expectedArgument else pure (first ≠ [], [])
        return (value ≠ negated, rest)

/-- Terms with an operator between them. -/
def programChain (term : List Text → Judged) (operator : String) (join : Bool → Bool → Bool) :
    Nat → List Text → Judged
  | 0, _ => .error .expectedArgument
  | fuel + 1, words => do
      let (value, rest) ← term words
      match rest with
      | word :: behind =>
          if word = Text.of operator then
            let (others, rest) ← programChain term operator join fuel behind
            return (join value others, rest)
          return (value, rest)
      | [] => return (value, [])

/-- The condition of so many words in front, and the words behind it. -/
def programCounted (surroundings : Surroundings) : Nat → Nat → List Text → Judged
  | 0, _, _ => .error .expectedArgument
  | fuel + 1, count, words =>
      let long : Judged :=
        programChain
          (programChain (programTerm surroundings (programCounted surroundings fuel) false)
            "-a" and (words.length + 1))
          "-o" or (words.length + 1) words
      match count, words with
      | 1, only :: rest => .ok (only ≠ [], rest)
      | 2, first :: second :: rest => do return (← programTwo surroundings first second, rest)
      | 3, first :: operator :: last :: rest =>
          if isProgramBinary operator then do
            return (← programBinary surroundings operator first last, rest)
          else if first = ['!'] then do
            return (!(← programTwo surroundings operator last), rest)
          else if first = ['('] ∧ last = [')'] then .ok (operator ≠ [], rest)
          else if operator = Text.of "-a" ∨ operator = Text.of "-o" then long
          else .error .unexpectedOperator
      | 4, first :: second :: third :: last :: rest =>
          if first = ['!'] then do
            let (value, rest) ← programCounted surroundings fuel 3 (second :: third :: last :: rest)
            return (!value, rest)
          else if first = ['('] ∧ last = [')'] then do
            return (← programTwo surroundings second third, rest)
          else long
      | _, _ => long

/-- The condition that words make up for the program. -/
def ofProgram (surroundings : Surroundings) (words : List Text) : Except ConditionFault Bool :=
  if words = [] then .ok false
  else do
    let (value, rest) ←
      programCounted surroundings (words.length + 2) words.length words
    if rest = [] then return value
    throw .unexpectedOperator

end Condition

end Promptline
