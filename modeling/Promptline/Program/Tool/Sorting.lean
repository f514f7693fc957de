/-
This file defines the program that sorts lines by keys.
-/

import Promptline.Program.Real
import Promptline.Program.Tool.Options

namespace Promptline.Tool

/-- A place in a line, by a field and a character in it, both counted from zero. -/
structure FieldPosition where
  field : Nat
  character : Nat
  skipsBlanks : Bool
  deriving DecidableEq, Repr

/-- A part of a line, and the letters that tell how it is compared. -/
structure SortKey where
  first : FieldPosition
  /-- A key without an end goes on to the end of the line. -/
  last? : Option FieldPosition
  letters : List Char
  deriving DecidableEq, Repr

namespace SortKey

def isBlank (c : Char) : Bool := c = ' ' || c = '\t' || c = '\n'

/-- What is left of a line behind a field. -/
def skipField (separator? : Option Char) (keepsSeparator : Bool) (text : Text) : Text :=
  match separator? with
  | some separator =>
      (text.dropWhile (· ≠ separator)).drop (if keepsSeparator then 0 else 1)
  | none => (text.dropWhile isBlank).dropWhile fun c => !isBlank c

def skipFields (separator? : Option Char) (keepsLast : Bool) : Nat → Text → Text
  | 0, text => text
  | count + 1, text =>
      skipFields separator? keepsLast count
        (skipField separator? (keepsLast && count = 0) text)

/-- The part of a line that a key names. -/
def part (key : SortKey) (separator? : Option Char) (line : Text) : Text :=
  let blanksFrom (position : FieldPosition) (text : Text) : Text :=
    if position.skipsBlanks then text.dropWhile isBlank else text
  let start := (blanksFrom key.first (skipFields separator? false key.first.field line)).drop
    key.first.character
  match key.last? with
  | none => start
  | some last =>
      let behind :=
        if last.character = 0 then skipFields separator? true (last.field + 1) line
        else (blanksFrom last (skipFields separator? false last.field line)).drop last.character
      start.take (start.length - behind.length)

/-- A field, a character in it, and letters. -/
def position? (text : Text) : Option (Nat × Option Nat × List Char × Text) :=
  let (field, rest) := Integer.digits 10 text
  if field = [] ∨ Integer.natural 10 field = 0 then none
  else
    let (character?, rest) :=
      match rest with
      | '.' :: rest =>
          let (digits, rest) := Integer.digits 10 rest
          (some digits, rest)
      | rest => (none, rest)
    if character? = some [] then none
    else
      let letters := rest.takeWhile "bdfgiMhnRrV".toList.contains
      some (Integer.natural 10 field, character?.map (Integer.natural 10), letters,
        rest.drop letters.length)

/-- The key that an option describes. -/
def read? (text : Text) : Option SortKey := do
  let (field, character?, letters, rest) ← position? text
  let character := character?.getD 1
  if character = 0 then none
  let first : FieldPosition := ⟨field - 1, character - 1, letters.contains 'b'⟩
  match rest with
  | [] => return ⟨first, none, letters⟩
  | ',' :: rest => do
      let (field, character?, more, rest) ← position? rest
      if rest ≠ [] then none
      return ⟨first, some ⟨field - 1, character?.getD 0, more.contains 'b'⟩, letters ++ more⟩
  | _ => none

/-- The number at the start of a text as a quotient. -/
def number (text : Text) : Int × Nat :=
  let (negative, unsigned) :=
    match text.dropWhile isBlank with
    | '-' :: rest => (true, rest)
    | rest => (false, rest)
  let (whole, rest) := Integer.digits 10 unsigned
  let fraction :=
    match rest with
    | '.' :: rest => (Integer.digits 10 rest).1
    | _ => []
  let size : Int := Integer.natural 10 (whole ++ fraction)
  (if negative then -size else size, Nat.pow 10 fraction.length)

/-- The order of the letters for multiples, where a text without one is the least. -/
def multiple (text : Text) : Nat :=
  let unsigned := (text.dropWhile isBlank).dropWhile (· = '-')
  let rest := (Integer.digits 10 unsigned).2
  let rest :=
    match rest with
    | '.' :: rest => (Integer.digits 10 rest).2
    | rest => rest
  match rest.head? with
  | some c => (("KMGTPEZYRQ".toList.idxOf? (if c = 'k' then 'K' else c)).map (· + 1)).getD 0
  | none => 0

def monthNames : List String :=
  ["JAN", "FEB", "MAR", "APR", "MAY", "JUN", "JUL", "AUG", "SEP", "OCT", "NOV", "DEC"]

def month (text : Text) : Nat :=
  let word := ((text.dropWhile isBlank).take 3).map Char.toUpper
  ((monthNames.idxOf? (String.ofList word)).map (· + 1)).getD 0

/-- The order of real numbers. Texts that are none come first. -/
def realOrder (first second : Text) : Ordering :=
  let rank (text : Text) : Nat × Int × Nat :=
    match Real.read? text with
    | none => (0, 0, 1)
    | some ⟨.notANumber _, _⟩ => (1, 0, 1)
    | some ⟨.infinite true, _⟩ => (2, 0, 1)
    | some ⟨.finite negative numerator denominator, _⟩ =>
        (3, if negative then -(numerator : Int) else numerator, denominator)
    | some ⟨.infinite false, _⟩ => (4, 0, 1)
  let (kind, numerator, denominator) := rank first
  let (otherKind, otherNumerator, otherDenominator) := rank second
  (compare kind otherKind).then
    (compare (numerator * otherDenominator) (otherNumerator * denominator))

/-- The rank of a character in a version. A tilde comes before the end, and letters come before
other characters. -/
def versionRank : Option Char → Int
  | none => 0
  | some c =>
      if c = '~' then -1
      else if c.isDigit then 0
      else if c.isAlpha then c.toNat else c.toNat + 256

/-- Parts of digits are compared as numbers, and the parts between them by their characters. -/
def versionOrder : Nat → Text → Text → Ordering
  | 0, _, _ => .eq
  | fuel + 1, first, second =>
      let isPlain (text : Text) : Bool := text.head?.any fun c => !c.isDigit
      if first = [] ∧ second = [] then .eq
      else if isPlain first ∨ isPlain second then
        let order := compare (versionRank first.head?) (versionRank second.head?)
        let next (text : Text) : Text := if isPlain text then text.drop 1 else text
        order.then (versionOrder fuel (next first) (next second))
      else
        let (digits, rest) := Integer.digits 10 first
        let (others, behind) := Integer.digits 10 second
        (compare (Integer.natural 10 digits) (Integer.natural 10 others)).then
          (versionOrder fuel rest behind)

def textOrder (first second : Text) : Ordering :=
  if first = second then .eq else if Text.le first second then .lt else .gt

def ratioOrder (first second : Int × Nat) : Ordering :=
  compare (first.1 * second.2) (second.1 * first.2)

/-- The order of two parts of lines by the letters of their key. -/
def partOrder (letters : List Char) (first second : Text) : Ordering :=
  if letters.contains 'n' then ratioOrder (number first) (number second)
  else if letters.contains 'h' then
    let sign (text : Text) : Int := if (number text).1 < 0 then -1 else 1
    (compare (sign first * multiple first) (sign second * multiple second)).then
      (ratioOrder (number first) (number second))
  else if letters.contains 'g' then realOrder first second
  else if letters.contains 'M' then compare (month first) (month second)
  else if letters.contains 'V' then
    versionOrder (first.length + second.length + 1) first second
  else
    let kept (text : Text) : Text :=
      let text := if letters.contains 'd' then
        text.filter fun c => c.isAlphanum || isBlank c else text
      let text := if letters.contains 'i' then text.filter fun c => ' ' ≤ c && c ≤ '~' else text
      if letters.contains 'f' then text.map Char.toUpper else text
    textOrder (kept first) (kept second)

/-- The order of two lines by a key. -/
def order (key : SortKey) (separator? : Option Char) (first second : Text) : Ordering :=
  let order := partOrder key.letters (key.part separator? first) (key.part separator? second)
  if key.letters.contains 'r' then order.swap else order

/-- A key without letters of its own has those for all keys. -/
def inherit (letters : List Char) (key : SortKey) : SortKey :=
  if key.letters = [] then
    let skips := letters.contains 'b'
    { key with
      letters
      first := { key.first with skipsBlanks := skips }
      last? := key.last?.map fun last => { last with skipsBlanks := skips } }
  else key

end SortKey

def sortOptions : Options :=
  ⟨"bdfghiMnrVRcCmsuz".toList, "kotST".toList,
    [("ignore-leading-blanks", 'b'), ("dictionary-order", 'd'), ("ignore-case", 'f'),
      ("general-numeric-sort", 'g'), ("human-numeric-sort", 'h'), ("ignore-nonprinting", 'i'),
      ("month-sort", 'M'), ("version-sort", 'V'), ("numeric-sort", 'n'), ("reverse", 'r'),
      ("check", 'c'), ("merge", 'm'), ("stable", 's'), ("unique", 'u'),
      ("zero-terminated", 'z'), ("key", 'k'), ("output", 'o'), ("field-separator", 't')]⟩

/-- The order of lines by all keys, and at last by themselves. -/
def lineOrder (given : Given) (keys : List SortKey) (separator? : Option Char)
    (first second : Text) : Ordering :=
  let byKeys := keys.foldl (fun order key =>
    order.then (key.order separator? first second)) Ordering.eq
  if given.has 's' ∨ given.has 'u' then byKeys
  else
    let whole := SortKey.textOrder first second
    byKeys.then (if given.has 'r' then whole.swap else whole)

/-- Of lines that have the same keys only the first one is kept. -/
def withoutRepeats (order : Text → Text → Ordering) : List Text → List Text
  | [] => []
  | line :: rest =>
      match withoutRepeats order rest with
      | next :: others =>
          if order line next = .eq then line :: others else line :: next :: others
      | [] => [line]

/-- The separator that a value names. -/
def separatorOf? : Text → Option Char
  | [c] => some c
  | ['\\', '0'] => some '\x00'
  | _ => none

def sort : Tool := withOptions "sort" sortOptions 2 fun given => do
  let letters := "bdfghiMnrV".toList.filter given.has
  let keys? := ((given.options.filter fun option => option.1 = 'k').map Prod.snd).mapM SortKey.read?
  let separator? := (given.value? 't').bind separatorOf?
  match keys? with
  | none => return 2
  | some keys => do
      if given.has 't' ∧ separator?.isNone then return 2
      let whole : SortKey := ⟨⟨0, 0, letters.contains 'b'⟩, none, letters⟩
      let keys := if keys = [] then [whole] else keys.map (SortKey.inherit letters)
      let order := lineOrder given keys separator?
      let end_ := if given.has 'z' then '\x00' else '\n'
      let (found, complete) ← contents "sort" given.operands
      if !complete then return 2
      let lines := found.flatMap fun (_, text) => (linesOf end_ text).1
      if given.has 'c' ∨ given.has 'C' then
        let isSorted := (lines.zip (lines.drop 1)).all fun (line, next) =>
          if given.has 'u' then order line next = .lt else order line next ≠ .gt
        return if isSorted then 0 else 1
      let sorted := lines.mergeSort fun first second => order first second ≠ .gt
      let sorted := if given.has 'u' then withoutRepeats order sorted else sorted
      let text := sorted.flatMap fun line => line ++ [end_]
      match given.value? 'o' with
      | none => do return if (← Work.put text) = 0 then 0 else 2
      | some path => do
          match (← getThe Machine).files.place (← read).directory path with
          | .ok place => do
              Work.changeFiles fun files => files.put place (.file text)
              return 0
          | .error _ => return 2

end Promptline.Tool
