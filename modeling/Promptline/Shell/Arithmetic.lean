/-
This file defines the arithmetic of the shell: expressions over whole numbers of 64 bits, in which
variables are read and assigned.
-/

import Promptline.Program.Integer

namespace Promptline.Shell.Arithmetic

inductive Operator where
  | or | xor | and | equal | differ | less | lessEqual | greater | greaterEqual
  | shiftLeft | shiftRight | add | subtract | multiply | divide | remainder
  deriving DecidableEq, Repr

inductive Sign where
  | minus | plus | not | complement
  deriving DecidableEq, Repr

inductive Expression where
  | number (n : Int)
  | variable_ (name : Text)
  | sign (sign : Sign) (operand : Expression)
  | binary (operator : Operator) (left right : Expression)
  | both (left right : Expression)
  | either (left right : Expression)
  | choice (condition yes no : Expression)
  | assign (name : Text) (operator? : Option Operator) (value : Expression)
  deriving Repr

inductive Token where
  | number (n : Int)
  | name (name : Text)
  | symbol (text : Text)
  deriving DecidableEq, Repr

/-- Why an expression has no value. -/
inductive Fault where
  | expectedPrimary
  | expectedEnd
  | expectedClose
  | expectedColon
  | divisionByZero
  | illegalNumber (text : Text)
  deriving DecidableEq, Repr

namespace Token

/-- The symbols, where a longer one goes before its start. -/
def symbols : List String :=
  ["<<=", ">>=", "<<", ">>", "<=", ">=", "==", "!=", "&&", "||", "+=", "-=", "*=", "/=", "%=",
    "&=", "^=", "|=", "<", ">", "=", "!", "&", "|", "+", "-", "*", "/", "%", "^", "~", "(", ")",
    "?", ":"]

def isNameStart (c : Char) : Bool := c.isAlpha || c = '_'

def isNamePart (c : Char) : Bool := c.isAlphanum || c = '_'

/-- The tokens of a text. A character that starts none gives a token that fits nowhere. -/
def ofText (text : Text) : List Token :=
  match text with
  | [] => []
  | c :: rest =>
      if c = ' ' ∨ c = '\t' ∨ c = '\n' then ofText rest
      else if c.isDigit then
        match Integer.read? none (c :: rest) with
        | some reading =>
            .number reading.clamped :: ofText (rest.drop (rest.length - reading.rest.length))
        | none => ofText rest
      else if isNameStart c then
        .name (c :: rest.takeWhile isNamePart) :: ofText (rest.dropWhile isNamePart)
      else match symbols.find? fun written => (Text.of written).isPrefixOf (c :: rest) with
        | some written => .symbol (Text.of written) :: ofText (rest.drop (written.length - 1))
        | none => .symbol [c] :: ofText rest
termination_by text.length
decreasing_by
  all_goals simp only [List.length_cons, List.length_drop]
  all_goals have := (List.dropWhile_sublist (l := rest) isNamePart).length_le
  all_goals omega

end Token

/-- Operators by their symbols, with their ranks. A lower rank binds more tightly. -/
def operators : List (String × Nat × Operator) :=
  [("*", 1, .multiply), ("/", 1, .divide), ("%", 1, .remainder), ("+", 2, .add),
    ("-", 2, .subtract), ("<<", 3, .shiftLeft), (">>", 3, .shiftRight), ("<", 4, .less),
    ("<=", 4, .lessEqual), (">", 4, .greater), (">=", 4, .greaterEqual), ("==", 5, .equal),
    ("!=", 5, .differ), ("&", 6, .and), ("^", 7, .xor), ("|", 8, .or)]

def highestRank : Nat := 8

def operatorOfRank? (rank : Nat) : Token → Option Operator
  | .symbol text =>
      (operators.find? fun (symbol, level, _) => level = rank ∧ Text.of symbol = text).map
        fun (_, _, operator) => operator
  | _ => none

/-- The operator of an assignment, which a plain one does not have. -/
def assignment? : Token → Option (Option Operator)
  | .symbol text =>
      if text = ['='] then some none
      else if text.getLast? = some '=' then
        (operators.find? fun (symbol, _, _) =>
          Text.of symbol = text.dropLast ∧ !(["<", ">", "==", "!="].contains symbol)).map
            fun (_, _, operator) => some operator
      else none
  | _ => none

abbrev Parsed := Except Fault (Expression × List Token)

/-- A number, a name or an expression in parentheses, behind its signs. -/
def primary (inner : List Token → Parsed) : List Token → Parsed
  | .number n :: rest => .ok (.number n, rest)
  | .name name :: rest => .ok (.variable_ name, rest)
  | .symbol ['('] :: rest => do
      match ← inner rest with
      | (expression, .symbol [')'] :: rest) => return (expression, rest)
      | _ => throw .expectedClose
  | .symbol [c] :: rest => do
      let sign ← match c with
        | '-' => pure Sign.minus
        | '+' => pure Sign.plus
        | '!' => pure Sign.not
        | '~' => pure Sign.complement
        | _ => throw .expectedPrimary
      let (operand, rest) ← primary inner rest
      return (.sign sign operand, rest)
  | _ => .error .expectedPrimary

/-- More operands of operators of one rank, from left to right. -/
def chain (operand : List Token → Parsed) (rank : Nat) : Nat → Expression → List Token → Parsed
  | 0, left, tokens => .ok (left, tokens)
  | _ + 1, left, [] => .ok (left, [])
  | fuel + 1, left, token :: rest =>
      match operatorOfRank? rank token with
      | none => .ok (left, token :: rest)
      | some operator => do
          let (right, rest) ← operand rest
          chain operand rank fuel (.binary operator left right) rest

def ranked (inner : List Token → Parsed) : Nat → List Token → Parsed
  | 0, tokens => primary inner tokens
  | rank + 1, tokens => do
      let (left, rest) ← ranked inner rank tokens
      chain (ranked inner rank) (rank + 1) rest.length left rest

/-- Operands of one of the two logical operators, from right to left. -/
def logical (operand : List Token → Parsed) (symbol : String)
    (join : Expression → Expression → Expression) : Nat → List Token → Parsed
  | 0, _ => .error .expectedPrimary
  | fuel + 1, tokens => do
      let (left, rest) ← operand tokens
      match rest with
      | .symbol text :: behind =>
          if text = Text.of symbol then
            let (right, behind) ← logical operand symbol join fuel behind
            return (join left right, behind)
          else return (left, rest)
      | _ => return (left, rest)

def disjunction (inner : List Token → Parsed) (tokens : List Token) : Parsed :=
  logical
    (fun tokens =>
      logical (ranked inner highestRank) "&&" Expression.both (tokens.length + 1) tokens)
    "||" Expression.either (tokens.length + 1) tokens

def conditional (inner : List Token → Parsed) : Nat → List Token → Parsed
  | 0, _ => .error .expectedPrimary
  | fuel + 1, tokens => do
      let (condition, rest) ← disjunction inner tokens
      match rest with
      | .symbol ['?'] :: rest =>
          match ← inner rest with
          | (yes, .symbol [':'] :: rest) =>
              let (no, rest) ← conditional inner fuel rest
              return (.choice condition yes no, rest)
          | _ => throw .expectedColon
      | _ => return (condition, rest)

/-- An expression at the start of the tokens. Only a name can be assigned to. -/
def expression : Nat → List Token → Parsed
  | 0, _ => .error .expectedPrimary
  | fuel + 1, tokens =>
      let plain := conditional (expression fuel) (tokens.length + 1) tokens
      match tokens with
      | .name name :: token :: rest =>
          match assignment? token with
          | some operator? => do
              let (value, rest) ← expression fuel rest
              return (.assign name operator? value, rest)
          | none => plain
      | _ => plain

/-- The expression that a text denotes. An empty text is zero. -/
def parse (text : Text) : Except Fault Expression :=
  match Token.ofText text with
  | [] => .ok (.number 0)
  | tokens => do
      match ← expression (tokens.length + 1) tokens with
      | (result, []) => return result
      | _ => throw .expectedEnd

def truth (holds : Bool) : Int := if holds then 1 else 0

/-- Division is toward zero. Shifts look at the lowest six bits of their distance. -/
def Operator.apply (operator : Operator) (a b : Int) : Except Fault Int :=
  let word (n : Int) : BitVec 64 := BitVec.ofInt 64 n
  let distance : Nat := (b % 64).toNat
  match operator with
  | .or => .ok (word a ||| word b).toInt
  | .xor => .ok (word a ^^^ word b).toInt
  | .and => .ok (word a &&& word b).toInt
  | .equal => .ok (truth (a = b))
  | .differ => .ok (truth (a ≠ b))
  | .less => .ok (truth (a < b))
  | .lessEqual => .ok (truth (a ≤ b))
  | .greater => .ok (truth (b < a))
  | .greaterEqual => .ok (truth (b ≤ a))
  | .shiftLeft => .ok (Integer.wrap (a * (Nat.pow 2 distance : Int)))
  | .shiftRight => .ok (a.fdiv (Nat.pow 2 distance))
  | .add => .ok (Integer.wrap (a + b))
  | .subtract => .ok (Integer.wrap (a - b))
  | .multiply => .ok (Integer.wrap (a * b))
  | .divide => if b = 0 then .error .divisionByZero else .ok (Integer.wrap (a.tdiv b))
  | .remainder => if b = 0 then .error .divisionByZero else .ok (a.tmod b)

def Sign.apply (sign : Sign) (n : Int) : Int :=
  match sign with
  | .minus => Integer.wrap (-n)
  | .plus => n
  | .not => truth (n = 0)
  | .complement => -n - 1

/-- How variables are read and assigned. -/
structure Access (M : Type → Type) where
  read : Text → M Int
  assign : Text → Int → M Unit
  fail : {A : Type} → Fault → M A

/-- The value of an expression. Operands that make no difference are not looked at. -/
def value {M : Type → Type} [Monad M] (access : Access M) : Expression → M Int
  | .number n => pure n
  | .variable_ name => access.read name
  | .sign sign operand => do return sign.apply (← value access operand)
  | .binary operator left right => do
      let a ← value access left
      let b ← value access right
      apply operator a b
  | .both left right => do
      if (← value access left) = 0 then return 0
      return truth ((← value access right) ≠ 0)
  | .either left right => do
      if (← value access left) ≠ 0 then return 1
      return truth ((← value access right) ≠ 0)
  | .choice condition yes no => do
      if (← value access condition) ≠ 0 then value access yes else value access no
  | .assign name operator? expression => do
      let operand ← value access expression
      let result ← match operator? with
        | none => pure operand
        | some operator => apply operator (← access.read name) operand
      access.assign name result
      return result
where
  apply (operator : Operator) (a b : Int) : M Int :=
    match operator.apply a b with
    | .ok result => pure result
    | .error fault => access.fail fault

end Promptline.Shell.Arithmetic
