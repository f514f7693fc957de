/-
This file reads regular expressions. The two ways of writing them differ in the characters that need
a backslash for their special meaning.
-/

import Promptline.Program.Integer
import Promptline.Program.Regex

namespace Promptline.Regex

/-- A part of a written expression. -/
inductive Token where
  | atom (regex : Regex)
  | start
  | open_
  | close
  | or
  | times (least : Nat) (most? : Option Nat)
  deriving DecidableEq, Repr

namespace Token

/-- Nothing that could be repeated stands in front. -/
def opens : Option Token → Bool
  | none | some start | some open_ | some or => true
  | _ => false

/-- A branch begins here. -/
def beginsBranch : Option Token → Bool
  | none | some open_ | some or => true
  | _ => false

/-- The escaped letters that stand for kinds of characters or for places. -/
def ofLetter? : Char → Option Regex
  | 'w' => some (.bracket false [Text.of "alnum"] [('_', '_')])
  | 'W' => some (.bracket true [Text.of "alnum"] [('_', '_')])
  | 's' => some (.bracket false [Text.of "space"] [])
  | 'S' => some (.bracket true [Text.of "space"] [])
  | 'b' => some (.wordEdge true)
  | 'B' => some (.wordEdge false)
  | '<' => some .wordStart
  | '>' => some .wordStop
  | '\x60' => some .start
  | '\'' => some .stop
  | _ => none

/-- The largest number of turns that can be written. -/
def highestCount : Nat := 32767

/-- The numbers of turns between braces and the text behind them. -/
def interval? (closing : Text) (text : Text) : Option (Token × Text) :=
  let (low, rest) := Integer.digits 10 text
  let least := Integer.natural 10 low
  let closed (most? : Option Nat) (rest : Text) : Option (Token × Text) :=
    if closing.isPrefixOf rest ∧ least ≤ highestCount ∧ most?.all (least ≤ ·) then
      some (.times least most?, rest.drop closing.length)
    else none
  match rest with
  | ',' :: rest =>
      let (high, rest) := Integer.digits 10 rest
      if high = [] then closed none rest else closed (some (Integer.natural 10 high)) rest
  | rest => if low = [] then none else closed (some least) rest

/-- The name between a bracket with a mark and the same mark with a bracket. -/
def named? (mark : Char) (text : Text) : Option (Text × Text) :=
  let name := text.takeWhile fun c => c ≠ mark
  match text.dropWhile fun c => c ≠ mark with
  | _ :: ']' :: rest => some (name, rest)
  | _ => none

/-- A member of a bracket that could be the end of a range. -/
def bracketChar? : Text → Option (Char × Text)
  | '[' :: '.' :: rest => do
      let (name, rest) ← named? '.' rest
      match name with
      | [c] => some (c, rest)
      | _ => none
  | c :: rest => some (c, rest)
  | [] => none

/-- The members of a bracket and the text behind it. -/
def members? (isFirst : Bool) (kinds : List Text) (ranges : List (Char × Char)) :
    Nat → Text → Option (List Text × List (Char × Char) × Text)
  | 0, _ => none
  | fuel + 1, text =>
      match text with
      | [] => none
      | '[' :: ':' :: rest => do
          let (name, rest) ← named? ':' rest
          if (Text.kind? name).isNone then none
          members? false (name :: kinds) ranges fuel rest
      | '[' :: '=' :: rest => do
          let (name, rest) ← named? '=' rest
          match name with
          | [c] => members? false kinds ((c, c) :: ranges) fuel rest
          | _ => none
      | ']' :: rest =>
          if isFirst then range ']' rest fuel else some (kinds, ranges, rest)
      | text => do
          let (c, rest) ← bracketChar? text
          range c rest fuel
where
  range (c : Char) (rest : Text) (fuel : Nat) : Option (List Text × List (Char × Char) × Text) :=
    match rest with
    | '-' :: ']' :: _ => members? false kinds ((c, c) :: ranges) fuel rest
    | '-' :: behind => do
        let (last, behind) ← bracketChar? behind
        if last < c then none else members? false kinds ((c, last) :: ranges) fuel behind
    | rest => members? false kinds ((c, c) :: ranges) fuel rest

def bracket? (text : Text) : Option (Token × Text) := do
  let (negated, inner) :=
    match text with
    | '^' :: inner => (true, inner)
    | inner => (false, inner)
  let (kinds, ranges, rest) ← members? true [] [] (inner.length + 1) inner
  return (.atom (.bracket negated kinds ranges), rest)

/-- The special meaning of a character, unless it has none. -/
def special? (c : Char) : Option Token :=
  match c with
  | '(' => some open_
  | ')' => some close
  | '|' => some or
  | '+' => some (times 1 none)
  | '?' => some (times 0 (some 1))
  | _ => none

/-- The next token and the text behind it. The way without many backslashes is the extended one. -/
def next? (extended : Bool) (previous? : Option Token) (text : Text) : Option (Token × Text) :=
  let literal (c : Char) (rest : Text) : Option (Token × Text) := some (.atom (.char c), rest)
  match text with
  | [] => none
  | '.' :: rest => some (.atom .anyChar, rest)
  | '[' :: rest => bracket? rest
  | '*' :: rest =>
      if !extended ∧ opens previous? then literal '*' rest else some (times 0 none, rest)
  | '^' :: rest =>
      if extended ∨ beginsBranch previous? then some (.start, rest) else literal '^' rest
  | '$' :: rest =>
      let isLast := rest = [] || ['\\', ')'].isPrefixOf rest || ['\\', '|'].isPrefixOf rest
      if extended ∨ isLast then some (.atom .stop, rest) else literal '$' rest
  | '\\' :: c :: rest =>
      if c = '{' ∧ !extended then interval? ['\\', '}'] rest
      else if '1' ≤ c ∧ c ≤ '9' then some (.atom (.reference (c.toNat - '0'.toNat)), rest)
      else match special? c, ofLetter? c with
        | some token, _ =>
            let repeats := c = '+' || c = '?'
            if extended ∨ (repeats ∧ opens previous?) then literal c rest else some (token, rest)
        | none, some regex => some (.atom regex, rest)
        | none, none => literal c rest
  | ['\\'] => none
  | c :: rest =>
      if !extended then literal c rest
      else if c = '{' then
        if opens previous? then literal c rest else (interval? ['}'] rest).or (literal c rest)
      else match special? c with
        | some token => some (token, rest)
        | none => literal c rest

def all? (extended : Bool) : Option Token → Nat → Text → Option (List Token)
  | _, 0, text => if text = [] then some [] else none
  | previous?, fuel + 1, text =>
      if text = [] then some []
      else do
        let (token, rest) ← next? extended previous? text
        let tokens ← all? extended (some token) fuel rest
        return token :: tokens

/-- A closing token without an opening one stands for itself. -/
def withLoneCloses : Nat → List Token → List Token
  | _, [] => []
  | depth, open_ :: rest => open_ :: withLoneCloses (depth + 1) rest
  | 0, close :: rest => .atom (.char ')') :: withLoneCloses 0 rest
  | depth + 1, close :: rest => close :: withLoneCloses depth rest
  | depth, token :: rest => token :: withLoneCloses depth rest

end Token

/-- The pieces of a branch in their order, where the last one is the head of the list. -/
def ofPieces (pieces : List Regex) : Regex :=
  pieces.foldl (fun regex piece => sequence piece regex) empty

mutual

/-- The branches up to the end of a group, with the number of the last group. -/
def branches? : Nat → Nat → List Token → Option (Regex × Nat × List Token)
  | 0, _, _ => none
  | fuel + 1, groups, tokens => do
      let (first, groups, rest) ← branch? fuel groups [] tokens
      match rest with
      | .or :: rest => do
          let (second, groups, rest) ← branches? fuel groups rest
          return (.choice first second, groups, rest)
      | rest => return (first, groups, rest)

def branch? : Nat → Nat → List Regex → List Token → Option (Regex × Nat × List Token)
  | 0, _, _, _ => none
  | fuel + 1, groups, pieces, tokens =>
      match tokens with
      | [] | .close :: _ | .or :: _ => some (ofPieces pieces, groups, tokens)
      | .start :: rest => branch? fuel groups (Regex.start :: pieces) rest
      | .atom (.reference index) :: rest =>
          if index ≤ groups then branch? fuel groups (.reference index :: pieces) rest else none
      | .atom regex :: rest => branch? fuel groups (regex :: pieces) rest
      | .times least most? :: rest =>
          match pieces with
          | last :: pieces => branch? fuel groups (.repeated least most? last :: pieces) rest
          | [] => branch? fuel groups [] rest
      | .open_ :: rest => do
          let index := groups + 1
          let (body, groups, rest) ← branches? fuel index rest
          match rest with
          | .close :: rest => branch? fuel groups (.group index body :: pieces) rest
          | _ => none

end

/-- The expression that a text denotes, unless it is faulty. A closing parenthesis alone may be
taken as it is. -/
def read? (extended allowsLoneClose : Bool) (text : Text) : Option Regex := do
  let tokens ← Token.all? extended none text.length text
  let tokens := if allowsLoneClose then Token.withLoneCloses 0 tokens else tokens
  let (regex, _, rest) ← branches? (3 * tokens.length + 3) 0 tokens
  if rest = [] then return regex
  none

end Promptline.Regex
