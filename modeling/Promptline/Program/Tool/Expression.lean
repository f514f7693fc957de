/-
This file defines the program that evaluates an expression given as separate words.
-/

import Promptline.Program.Regex.Reader
import Promptline.Program.Tool.Options

namespace Promptline.Tool

/-- Why an expression has no value. All causes have the same code. -/
inductive ExpressionFault where
  | unexpectedWord (word : Text)
  | missingWord
  | noInteger
  | zeroDivisor
  | faultyRegex
  deriving DecidableEq, Repr

/-- What is said about a fault in some words. -/
def ExpressionFault.message (words : List Text) : ExpressionFault → Text
  | unexpectedWord word =>
      Text.of (if word = [')'] then "syntax error: unexpected "
        else "syntax error: unexpected argument ") ++ quoted word
  | missingWord =>
      Text.of "syntax error: missing argument after " ++ quoted (words.getLast?.getD [])
  | noInteger => Text.of "non-integer argument"
  | zeroDivisor => Text.of "division by zero"
  | faultyRegex => Text.of "Unmatched ( or \\("

namespace Expression

/-- The whole number that a value stands for. -/
def integer? (value : Text) : Option Int :=
  let (negative, digits) :=
    match value with
    | '-' :: rest => (true, rest)
    | rest => (false, rest)
  if digits = [] ∨ !digits.all Char.isDigit then none
  else
    let size : Int := Integer.natural 10 digits
    some (if negative then -size else size)

/-- The empty text and every form of zero count as false. -/
def isNull (value : Text) : Bool := value = [] || integer? value = some 0

/-- The operators by their levels, where those of the first level bind least. -/
def levels : List (List String) :=
  [["|"], ["&"], ["<", "<=", "=", "==", "!=", ">=", ">"], ["+", "-"], ["*", "/", "%"], [":"]]

def ofBool (holds : Bool) : Text := if holds then ['1'] else ['0']

def compares (operator : String) (first second : Text) : Bool :=
  let (less, same) : Bool × Bool :=
    match integer? first, integer? second with
    | some first, some second => (decide (first < second), decide (first = second))
    | _, _ => (first ≠ second && Text.le first second, decide (first = second))
  match operator with
  | "<" => less
  | "<=" => less || same
  | "=" | "==" => same
  | "!=" => !same
  | ">=" => !less
  | _ => !less && !same

/-- What the first group of an expression matches at the start of a text, or else the length of the
match. -/
def matchStart (subject pattern : Text) : Except ExpressionFault Text :=
  match Regex.read? false false pattern.characters with
  | none => .error .faultyRegex
  | some regex =>
      let found? := regex.longest? false Regex.anywhere (.ofText subject.characters)
      if hasGroup pattern then
        .ok (((found?.bind fun found => found.groups.lookup 1).map fun text =>
          if (Text.ofBytewise? subject).isSome then Text.bytewise text else text).getD [])
      else .ok (Text.ofNat ((found?.map fun found => found.text.length).getD 0))
where
  /-- A group is opened somewhere. -/
  hasGroup : Text → Bool
    | '\\' :: c :: rest => c = '(' || hasGroup rest
    | _ :: rest => hasGroup rest
    | [] => false

def calculate (operator : String) (first second : Text) : Except ExpressionFault Text :=
  match integer? first, integer? second with
  | some first, some second =>
      match operator with
      | "+" => .ok (Integer.text (first + second))
      | "-" => .ok (Integer.text (first - second))
      | "*" => .ok (Integer.text (first * second))
      | "/" => if second = 0 then .error .zeroDivisor else .ok (Integer.text (first.tdiv second))
      | _ => if second = 0 then .error .zeroDivisor else .ok (Integer.text (first.tmod second))
  | _, _ => .error .noInteger

/-- The value of an operator. A value that is not needed is not calculated. -/
def combine (active : Bool) (operator : String) (first second : Text) :
    Except ExpressionFault Text :=
  match operator with
  | "|" => .ok (if !isNull first then first else if isNull second then ['0'] else second)
  | "&" => .ok (if isNull first || isNull second then ['0'] else first)
  | "<" | "<=" | "=" | "==" | "!=" | ">=" | ">" => .ok (ofBool (compares operator first second))
  | ":" => if active then matchStart first second else .ok []
  | _ => if active then calculate operator first second else .ok ['0']

/-- The place of the first character that is one of some, counted from one. -/
def firstOf (subject members : Text) : Nat :=
  ((subject.characters.findIdx? members.characters.contains).map (· + 1)).getD 0

/-- A part of a text from a place on. -/
def part (subject start length : Text) : Text :=
  match integer? start, integer? length with
  | some start, some length =>
      if start ≤ 0 ∨ length ≤ 0 then []
      else
        let chars := (subject.characters.drop (start.toNat - 1)).take length.toNat
        if (Text.ofBytewise? subject).isSome then Text.bytewise chars else chars
  | _, _ => []

mutual

/-- The value at the start of some words, for operators from a level on. -/
def value? : Nat → Nat → Bool → List Text → Except ExpressionFault (Text × List Text)
  | 0, _, _, _ => .error .missingWord
  | fuel + 1, level, active, words =>
      match levels[level]? with
      | none => operand? fuel active words
      | some operators => do
          let (first, rest) ← value? fuel (level + 1) active words
          more? fuel level operators active first rest

/-- The operators of a level are applied from the left. -/
def more? : Nat → Nat → List String → Bool → Text → List Text →
    Except ExpressionFault (Text × List Text)
  | 0, _, _, _, _, _ => .error .missingWord
  | fuel + 1, level, operators, active, first, words =>
      match words with
      | [] => .ok (first, [])
      | word :: rest =>
          let operator := String.ofList word
          if !operators.contains operator then .ok (first, words)
          else do
            let goesOn := match operator with
              | "|" => active && isNull first
              | "&" => active && !isNull first
              | _ => active
            let (second, rest) ← value? fuel (level + 1) goesOn rest
            more? fuel level operators active (← combine goesOn operator first second) rest

def operand? : Nat → Bool → List Text → Except ExpressionFault (Text × List Text)
  | 0, _, _ => .error .missingWord
  | fuel + 1, active, words =>
      match words with
      | [] => .error .missingWord
      | word :: rest => do
          match String.ofList word, rest with
          | "+", [] => .error .missingWord
          | "+", quoted :: rest => .ok (quoted, rest)
          | "length", rest =>
              let (subject, rest) ← operand? fuel active rest
              return (Text.ofNat subject.characters.length, rest)
          | "match", rest =>
              let (subject, rest) ← operand? fuel active rest
              let (pattern, rest) ← operand? fuel active rest
              return (← combine active ":" subject pattern, rest)
          | "index", rest =>
              let (subject, rest) ← operand? fuel active rest
              let (members, rest) ← operand? fuel active rest
              return (Text.ofNat (firstOf subject members), rest)
          | "substr", rest =>
              let (subject, rest) ← operand? fuel active rest
              let (start, rest) ← operand? fuel active rest
              let (length, rest) ← operand? fuel active rest
              return (part subject start length, rest)
          | "(", rest =>
              let (value, rest) ← value? fuel 0 active rest
              match rest with
              | [')'] :: rest => return (value, rest)
              | [] => .error .missingWord
              | word :: _ => .error (.unexpectedWord word)
          | ")", _ => .error (.unexpectedWord word)
          | _, rest => return (word, rest)

end

end Expression

/-- The value of an expression, whose code tells whether it counts as true. -/
def expr : Tool := fun arguments => do
  let words := if arguments.head? = some ['-', '-'] then arguments.drop 1 else arguments
  match Expression.value? (20 * words.length + 20) 0 true words with
  | .ok (value, []) => do
      discard (Work.put (value ++ ['\n']))
      return if Expression.isNull value then 1 else 0
  | .ok (_, word :: _) => fail "expr" ((ExpressionFault.unexpectedWord word).message words) 2
  | .error fault =>
      if words = [] then missingOperand "expr" 2 else fail "expr" (fault.message words) 2

end Promptline.Tool
