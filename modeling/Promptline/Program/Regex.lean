/-
This file defines the regular expressions of the programs that search in texts, and where they
match.
-/

import Promptline.Text.Kind

namespace Promptline

/-- A regular expression matches at some places of a text. -/
inductive Regex where
  | empty
  | char (c : Char)
  | anyChar
  /-- One character that has one of the kinds or lies in one of the ranges, or none. -/
  | bracket (negated : Bool) (kinds : List Text) (ranges : List (Char × Char))
  | start
  | stop
  /-- A place with a word on the wanted side, or on exactly one side, or not. -/
  | wordStart
  | wordStop
  | wordEdge (holds : Bool)
  | sequence (first second : Regex)
  | choice (first second : Regex)
  | repeated (least : Nat) (most? : Option Nat) (body : Regex)
  | group (index : Nat) (body : Regex)
  /-- What a group has matched last. -/
  | reference (index : Nat)
  deriving DecidableEq, Repr

namespace Regex

/-- A place in a text, with what groups have matched in front of it. -/
structure Spot where
  position : Nat
  previous? : Option Char
  rest : Text
  groups : List (Nat × Text)
  deriving DecidableEq, Repr

namespace Spot

/-- The place behind a number of characters. -/
def advance (spot : Spot) (count : Nat) : Spot :=
  { spot with
    position := spot.position + count
    previous? := (spot.rest.take count).getLast?.or spot.previous?
    rest := spot.rest.drop count }

def ofText (text : Text) : Spot := ⟨0, none, text, []⟩

end Spot

def isWordChar (c : Char) : Bool := c.isAlphanum || c = '_'

/-- The spot lies behind a word, or in front of one. -/
def isBehindWord (spot : Spot) : Bool := spot.previous?.any isWordChar

def isBeforeWord (spot : Spot) : Bool := spot.rest.head?.any isWordChar

/-- Capital and small letters may be the same. -/
def sameChar (foldsCase : Bool) (c d : Char) : Bool :=
  c = d || (foldsCase && c.toLower = d.toLower)

def inBracket (kinds : List Text) (ranges : List (Char × Char)) (c : Char) : Bool :=
  (kinds.any fun kind => (Text.kind? kind).any fun holds => holds c) ||
    ranges.any fun range => range.1 ≤ c && c ≤ range.2

/-- A body is matched again and again. A turn without a character is one of the needed ones. -/
def turns (body : Spot → List Spot) (most? : Option Nat) : Nat → Nat → Nat → Spot → List Spot
  | 0, _, _, spot => [spot]
  | fuel + 1, least, done, spot =>
      let further := if most?.any (· ≤ done) then [] else
        (body spot).flatMap fun next =>
          if next.position = spot.position ∧ least ≤ done then []
          else turns body most? fuel least (done + 1) next
      (further ++ if least ≤ done then [spot] else []).eraseDups

/-- All places at which a match from a spot can end, the preferred ones first. -/
def ends (foldsCase : Bool) : Regex → Spot → List Spot
  | empty, spot => [spot]
  | char expected, spot =>
      match spot.rest with
      | c :: _ => if sameChar foldsCase expected c then [spot.advance 1] else []
      | [] => []
  | anyChar, spot => if spot.rest = [] then [] else [spot.advance 1]
  | bracket negated kinds ranges, spot =>
      match spot.rest with
      | c :: _ =>
          let found := inBracket kinds ranges c ||
            (foldsCase && (inBracket kinds ranges c.toLower || inBracket kinds ranges c.toUpper))
          if found ≠ negated then [spot.advance 1] else []
      | [] => []
  | start, spot => if spot.position = 0 then [spot] else []
  | stop, spot => if spot.rest = [] then [spot] else []
  | wordStart, spot => if !isBehindWord spot && isBeforeWord spot then [spot] else []
  | wordStop, spot => if isBehindWord spot && !isBeforeWord spot then [spot] else []
  | wordEdge holds, spot => if (isBehindWord spot ≠ isBeforeWord spot) = holds then [spot] else []
  | sequence first second, spot =>
      ((first.ends foldsCase spot).flatMap (second.ends foldsCase)).eraseDups
  | choice first second, spot =>
      (first.ends foldsCase spot ++ second.ends foldsCase spot).eraseDups
  | repeated least most? body, spot =>
      turns (body.ends foldsCase) most? (spot.rest.length + least + 1) least 0 spot
  | group index body, spot =>
      (body.ends foldsCase spot).map fun next =>
        let matched := spot.rest.take (next.position - spot.position)
        { next with
          groups := (index, matched) :: next.groups.filter fun other => other.1 ≠ index }
  | reference index, spot =>
      match spot.groups.lookup index with
      | some text =>
          let same := (spot.rest.take text.length).length = text.length &&
            ((spot.rest.take text.length).zip text).all fun (c, d) => sameChar foldsCase c d
          if same then [spot.advance text.length] else []
      | none => []

/-- A match of an expression in a text. -/
structure Match where
  position : Nat
  text : Text
  groups : List (Nat × Text)
  deriving DecidableEq, Repr

/-- The longest match at a spot that is allowed. -/
def longest? (foldsCase : Bool) (allows : Spot → Spot → Bool) (regex : Regex) (spot : Spot) :
    Option Match :=
  let found := (regex.ends foldsCase spot).filter (allows spot)
  let best := found.foldl
    (fun (best? : Option Spot) next =>
      if best?.any fun best => next.position ≤ best.position then best? else some next) none
  best.map fun stop =>
    ⟨spot.position, spot.rest.take (stop.position - spot.position), stop.groups⟩

/-- The first match from a spot on that is allowed. -/
def find? (foldsCase : Bool) (allows : Spot → Spot → Bool) (regex : Regex) (spot : Spot) :
    Option Match :=
  (List.range (spot.rest.length + 1)).findSome? fun count =>
    regex.longest? foldsCase allows (spot.advance count)

/-- All spots between which a match lies are allowed. -/
def anywhere (_ _ : Spot) : Bool := true

/-- The expression matches in a text. -/
def occursIn (foldsCase : Bool) (regex : Regex) (text : Text) : Bool :=
  (regex.find? foldsCase anywhere (.ofText text)).isSome

/-- The expression matches exactly this text. -/
def literal (text : Text) : Regex := text.foldr (fun c regex => sequence (char c) regex) empty

end Regex

end Promptline
