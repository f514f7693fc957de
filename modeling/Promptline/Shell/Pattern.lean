/-
This file defines the patterns of the shell: which texts they match and which ends of a text.
-/

import Promptline.Text.Bytes
import Promptline.Text.Kind

namespace Promptline.Shell

/-- A member of a bracket. -/
inductive PatternMember where
  | range (first last : Char)
  | kind (name : Text)
  deriving DecidableEq, Repr

inductive PatternItem where
  | char (c : Char)
  | anyChar
  | anyText
  | bracket (negated : Bool) (members : List PatternMember)
  deriving DecidableEq, Repr

/-- A pattern matches texts item by item. -/
abbrev Pattern := List PatternItem

namespace PatternMember

/-- Bytes are compared with their signs, so the upper half of them lies below the lower half. -/
def order (c : Char) : Int := if c.toNat < 128 then c.toNat else (c.toNat : Int) - 256

def contains (c : Char) : PatternMember → Bool
  | range first last => order first ≤ order c && order c ≤ order last
  | kind name => (Text.kind? name).any fun holds => holds c

end PatternMember

namespace Pattern

/-- The kind that an open bracket introduces, and the text behind it. -/
def kind? (text : Text) : Option (Text × Text) :=
  match text with
  | ':' :: rest =>
      let name := rest.takeWhile Char.isAlpha
      match rest.dropWhile Char.isAlpha with
      | ':' :: ']' :: behind =>
          if (Text.kind? name).isSome then some (name, behind) else none
      | _ => none
  | _ => none

/-- The members of a bracket and the text behind it, unless it is never closed. The first character
is a member even if it could close the bracket. -/
def members? (isFirst : Bool) : Nat → Text → Option (List PatternMember × Text)
  | 0, _ => none
  | fuel + 1, text =>
      match text with
      | [] => none
      | c :: rest =>
          if c = ']' ∧ !isFirst then some ([], rest)
          else
            let add (member : PatternMember) (rest : Text) :
                Option (List PatternMember × Text) :=
              (members? false fuel rest).map fun (members, behind) => (member :: members, behind)
            match if c = '[' then kind? rest else none with
            | some (name, behind) => add (.kind name) behind
            | none =>
                let (first, rest) :=
                  match c, rest with
                  | '\\', escaped :: rest => (escaped, rest)
                  | _, _ => (c, rest)
                match rest with
                | '-' :: last :: behind =>
                    if last = ']' then add (.range first first) rest
                    else
                      match last, behind with
                      | '\\', escaped :: behind => add (.range first escaped) behind
                      | _, _ => add (.range first last) behind
                | _ => add (.range first first) rest

/-- The pattern that a text denotes. A backslash takes the meaning from the next character. -/
def ofText (text : Text) : Pattern :=
  match text with
  | [] => []
  | '\\' :: c :: rest => .char c :: ofText rest
  | '?' :: rest => .anyChar :: ofText rest
  | '*' :: rest => .anyText :: ofText rest
  | '[' :: rest =>
      let (negated, inner) :=
        match rest with
        | '!' :: inner => (true, inner)
        | inner => (false, inner)
      match members? true (inner.length + 1) inner with
      | some (members, behind) =>
          .bracket negated members :: ofText (rest.drop (rest.length - behind.length))
      | none => .char '[' :: ofText rest
  | c :: rest => .char c :: ofText rest
termination_by text.length
decreasing_by
  all_goals simp only [List.length_cons, List.length_drop]
  all_goals omega

/-- The ends of a text, from the whole text to the empty one. -/
def ends : Text → List Text
  | [] => [[]]
  | c :: rest => (c :: rest) :: ends rest

/-- The pattern matches the whole text. -/
def accepts : Pattern → Text → Bool
  | [], text => text.isEmpty
  | .anyText :: pattern, text => (ends text).any (accepts pattern)
  | _ :: _, [] => false
  | .char expected :: pattern, c :: rest => expected = c && accepts pattern rest
  | .anyChar :: pattern, _ :: rest => accepts pattern rest
  | .bracket negated members :: pattern, c :: rest =>
      members.any (PatternMember.contains c) ≠ negated && accepts pattern rest

/-- What is left when a matching start is cut off, the shortest or the longest one. -/
def cutStart (pattern : Pattern) (longest : Bool) (text : Text) : Text :=
  let lengths := List.range (text.length + 1)
  let lengths := if longest then lengths.reverse else lengths
  match lengths.find? fun length => pattern.accepts (text.take length) with
  | some length => text.drop length
  | none => text

/-- What is left when a matching end is cut off, the shortest or the longest one. -/
def cutEnd (pattern : Pattern) (longest : Bool) (text : Text) : Text :=
  let lengths := List.range (text.length + 1)
  let lengths := if longest then lengths else lengths.reverse
  match lengths.find? fun length => pattern.accepts (text.drop length) with
  | some length => text.take length
  | none => text

end Pattern

end Promptline.Shell
