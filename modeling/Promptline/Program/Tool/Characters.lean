/-
This file defines the program that exchanges, deletes and squeezes characters.
-/

import Promptline.Program.Integer
import Promptline.Program.Tool.Options
import Promptline.Text.Kind

namespace Promptline.Tool

/-- A member of a written set of characters. -/
inductive SetMember where
  | chars (members : Text)
  | kind (name : Text)
  /-- A character that is repeated, or as often as needed. -/
  | repeated (c : Char) (count? : Option Nat)
  deriving DecidableEq, Repr

/-- The characters of a set in which escapes are told apart. -/
def setChars (text : Text) : List (Char × Bool) :=
  match text with
  | [] => []
  | ['\\'] => [('\\', false)]
  | '\\' :: c :: rest =>
      match EscapeRules.digit? 8 c with
      | some _ =>
          let (code, count) := EscapeRules.leading 8 3 (c :: rest)
          let (code, count) := if 255 < code then (code / 8, count - 1) else (code, count)
          (Text.ofByte code.toUInt8, true) :: setChars (rest.drop (count - 1))
      | none =>
          (if c = 'e' then c else (EscapeRules.letter? c).getD c, true) :: setChars rest
  | c :: rest => (c, false) :: setChars rest
termination_by text.length
decreasing_by
  all_goals simp only [List.length_cons, List.length_drop]
  all_goals omega

/-- The name between a mark and the same mark with a bracket. -/
def bracketed? (mark : Char) (chars : List (Char × Bool)) :
    Option (Text × List (Char × Bool)) :=
  let name := chars.takeWhile fun c => c ≠ (mark, false)
  match chars.drop name.length with
  | _ :: (']', false) :: rest => some (name.map Prod.fst, rest)
  | _ => none

/-- A character with a number of turns in brackets. -/
def repetition? : List (Char × Bool) → Option (SetMember × List (Char × Bool))
  | (c, _) :: ('*', false) :: rest =>
      let digits := (rest.takeWhile fun d => d.1.isDigit && !d.2).map Prod.fst
      match rest.drop digits.length with
      | (']', false) :: behind =>
          let base := if digits.head? = some '0' then 8 else 10
          let count := Integer.natural base digits
          some (.repeated c (if count = 0 then none else some count), behind)
      | _ => none
  | _ => none

/-- The members of a set, unless it is faulty. -/
def setMembers? : Nat → List (Char × Bool) → Option (List SetMember)
  | 0, _ => none
  | fuel + 1, chars =>
      let add (member : SetMember) (rest : List (Char × Bool)) : Option (List SetMember) :=
        (setMembers? fuel rest).map (member :: ·)
      match chars with
      | [] => some []
      | (c, escaped) :: rest =>
          let special? : Option (Option (SetMember × List (Char × Bool))) :=
            if c ≠ '[' ∨ escaped then none
            else match rest with
              | (':', false) :: inner =>
                  (bracketed? ':' inner).map fun (name, behind) =>
                    if (Text.kind? name).isSome then some (.kind name, behind) else none
              | ('=', false) :: inner =>
                  (bracketed? '=' inner).map fun (name, behind) =>
                    if name.length = 1 then some (.chars name, behind) else none
              | inner => (repetition? inner).map some
          match special? with
          | some none => none
          | some (some (member, behind)) => add member behind
          | none =>
              match rest with
              | ('-', false) :: (last, _) :: behind =>
                  if last < c then none
                  else add (.chars ((List.range (last.toNat - c.toNat + 1)).map fun step =>
                    Char.ofNat (c.toNat + step))) behind
              | rest => add (.chars [c]) rest

def readSet? (text : Text) : Option (List SetMember) :=
  let chars := setChars text
  setMembers? (chars.length + 1) chars

/-- All characters that stand for a byte. -/
def allBytes : Text := (List.range 256).map fun code => Text.ofByte code.toUInt8

/-- The characters of a set, where a repeated one fills it up to a length. -/
def expandSet (length : Nat) (members : List SetMember) : Text :=
  let size : SetMember → Nat
    | .chars members => members.length
    | .kind name => (allBytes.filter fun c => (Text.kind? name).any fun holds => holds c).length
    | .repeated _ count? => count?.getD 0
  let missing := length - members.foldr (fun member total => size member + total) 0
  members.flatMap fun
    | .chars members => members
    | .kind name => allBytes.filter fun c => (Text.kind? name).any fun holds => holds c
    | .repeated c count? => List.replicate (count?.getD missing) c

/-- A set with characters for others has only kinds for which there is another one. -/
def isTarget (sources targets : List SetMember) : Bool :=
  let isLetterKind : SetMember → Bool
    | .kind name => name = Text.of "lower" || name = Text.of "upper"
    | _ => false
  targets.all fun
    | .kind name => isLetterKind (.kind name) && sources.any isLetterKind
    | _ => true

/-- Of the same characters in a row only the first is kept, for the characters of a set. -/
def squeeze (squeezes : Char → Bool) : Text → Text
  | c :: d :: rest =>
      if c = d ∧ squeezes c then squeeze squeezes (d :: rest)
      else c :: squeeze squeezes (d :: rest)
  | text => text

/-- What becomes of a text. -/
structure CharacterChange where
  deletes : Char → Bool
  pairs : List (Char × Char)
  squeezes : Char → Bool

def CharacterChange.apply (change : CharacterChange) (text : Text) : Text :=
  let kept := text.filter fun c => !change.deletes c
  let turned := kept.map fun c => (change.pairs.lookup c).getD c
  squeeze change.squeezes turned

/-- The change that options and sets describe, unless they do not fit. -/
def characterChange? (given : Given) (sets : List Text) : Option CharacterChange := do
  let sets ← sets.mapM readSet?
  let complements := given.has 'c' || given.has 'C'
  let isSource (members : List SetMember) : Bool := members.all fun
    | .repeated _ _ => false
    | _ => true
  let source (members : List SetMember) : Text :=
    let chars := expandSet 0 members
    if complements then allBytes.filter fun c => !chars.contains c else chars
  let nothing (_ : Char) : Bool := false
  match sets with
  | [first] =>
      if !isSource first then none
      let first := source first
      if given.has 'd' ∧ !given.has 's' then return ⟨first.contains, [], nothing⟩
      if given.has 's' ∧ !given.has 'd' then return ⟨nothing, [], first.contains⟩
      none
  | [first, second] =>
      if !isSource first then none
      if given.has 'd' then
        if !given.has 's' then none
        return ⟨(source first).contains, [], (expandSet 0 second).contains⟩
      if !isTarget first second then none
      let first := source first
      let second := expandSet first.length second
      let last? := second.getLast?
      let first := if given.has 't' then first.take second.length else first
      if last?.isNone ∧ first ≠ [] ∧ !given.has 't' then none
      let padding := List.replicate (first.length - second.length) (last?.getD ' ')
      let pairs := (first.zip (second ++ padding)).reverse
      return ⟨nothing, pairs, if given.has 's' then second.contains else nothing⟩
  | _ => none

/-- The first set is turned into the second one. -/
def tr : Tool :=
  withOptions "tr" ⟨"cCdst".toList, [], [("complement", 'c'), ("delete", 'd'),
    ("squeeze-repeats", 's'), ("truncate-set1", 't')]⟩ 1 fun given => do
      match characterChange? given given.operands with
      | none =>
          match given.operands with
          | [] => missingOperand "tr" 1
          | [set] => refuse "tr" (Text.of "missing operand after " ++ quoted set ++
              Text.of "\nTwo strings must be given when translating.") 1
          | _ :: _ :: extra :: _ => extraOperand "tr" extra 1
          | _ => return 1
      | some change => passOn "tr" [] change.apply

end Promptline.Tool
