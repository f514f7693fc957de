/-
This file defines the programs that take parts of lines, and those that compare neighbouring lines.
-/

import Promptline.Program.Integer
import Promptline.Program.Tool.Options

namespace Promptline.Tool

/-- The bounds of a range of positions, which are counted from one. An open one has no end. -/
def range? (text : Text) : Option (Nat × Option Nat) :=
  let (low, rest) := Integer.digits 10 text
  let first := if low = [] then 1 else Integer.natural 10 low
  if first = 0 then none
  else match rest with
    | [] => if low = [] then none else some (first, some first)
    | '-' :: rest =>
        let (high, rest) := Integer.digits 10 rest
        if rest ≠ [] then none
        else if high = [] then (if low = [] then none else some (first, none))
        else
          let last := Integer.natural 10 high
          if last < first then none else some (first, some last)
    | _ => none

/-- Ranges are in order, and those that overlap are one. -/
def mergeRanges : List (Nat × Option Nat) → List (Nat × Option Nat)
  | [] => []
  | (first, last?) :: rest =>
      match mergeRanges rest with
      | (next, nextLast?) :: others =>
          if last?.all (next ≤ ·) then
            (first, do return max (← last?) (← nextLast?)) :: others
          else (first, last?) :: (next, nextLast?) :: others
      | [] => [(first, last?)]

/-- The ranges between commas or blanks. -/
def ranges? (text : Text) : Option (List (Nat × Option Nat)) := do
  let pieces := Text.pieces (fun c => c = ',' || c = ' ' || c = '\t') text
  let ranges ← (pieces.filter (· ≠ [])).mapM range?
  if ranges = [] then none
  return mergeRanges (ranges.mergeSort fun first second => first.1 ≤ second.1)

/-- The ranges of all other positions. -/
def otherRanges (start : Nat) : List (Nat × Option Nat) → List (Nat × Option Nat)
  | [] => [(start, none)]
  | (first, last?) :: rest =>
      let before := if start < first then [(start, some (first - 1))] else []
      match last? with
      | some last => before ++ otherRanges (last + 1) rest
      | none => before

/-- The members in the ranges, range by range. -/
def chosen {A : Type} (ranges : List (Nat × Option Nat)) (members : List A) : List (List A) :=
  (ranges.map fun (first, last?) =>
    (members.take (last?.getD members.length)).drop (first - 1)).filter fun part => !part.isEmpty

def cutOptions : Options :=
  ⟨"nsz".toList, "bcfdC".toList ++ ['O'],
    [("bytes", 'b'), ("characters", 'c'), ("fields", 'f'), ("delimiter", 'd'),
      ("only-delimited", 's'), ("zero-terminated", 'z'), ("output-delimiter", 'O')]⟩

/-- The wanted part of a line, unless the line is passed over. -/
def cutLine (given : Given) (letter : Char) (ranges : List (Nat × Option Nat)) (line : Text) :
    Option Text :=
  if letter = 'f' then
    let delimiter := ((given.value? 'd').getD ['\t']).headD '\x00'
    let fields := Text.pieces (· = delimiter) line
    if fields.length = 1 then (if given.has 's' then none else some line)
    else some (Text.join ((given.value? 'O').getD [delimiter]) (chosen ranges fields).flatten)
  else some (Text.join ((given.value? 'O').getD []) (chosen ranges line))

/-- Some positions of each line, or all others. -/
def cut : Tool := fun arguments =>
  let complement := arguments.contains (Text.of "--complement")
  let arguments := arguments.filter fun word => word ≠ Text.of "--complement"
  withOptions "cut" cutOptions 1 (fun given => do
    let lists := given.options.filter fun option => ['b', 'c', 'f'].contains option.1
    match lists with
    | [(letter, list)] =>
        let isSound := (given.value? 'd').all fun delimiter => delimiter.length ≤ 1
        if !isSound ∨ (letter ≠ 'f' ∧ (given.has 'd' ∨ given.has 's')) then return 1
        match ranges? list with
        | none => return 1
        | some ranges => do
            let ranges := if complement then otherRanges 1 ranges else ranges
            let separator := if given.has 'z' then '\x00' else '\n'
            passLines "cut" given.operands separator fun line =>
              let body := if line.getLast? = some separator then line.dropLast else line
              match cutLine given letter ranges body with
              | some part => part ++ [separator]
              | none => []
    | [] => refuse "cut" (Text.of "you must specify a list of bytes, characters, or fields") 1
    | _ => refuse "cut" (Text.of "only one list may be specified") 1) arguments

/-- The part of a line that is compared with the neighbours. -/
def comparedPart (given : Given) (line : Text) : Text :=
  let value (letter : Char) : Nat := ((given.value? letter).bind size?).getD 0
  let isBlank (c : Char) : Bool := c = ' ' || c = '\t'
  let skipField (text : Text) : Text := (text.dropWhile isBlank).dropWhile fun c => !isBlank c
  let fields := (List.range (value 'f')).foldl (fun text _ => skipField text) line
  let behind := fields.drop (value 's')
  let part := if given.has 'w' then behind.take (value 'w') else behind
  if given.has 'i' then part.map Char.toUpper else part

/-- Neighbouring lines that are the same. -/
def groupsOf (given : Given) : List Text → List (List Text)
  | [] => []
  | line :: rest =>
      match groupsOf given rest with
      | (next :: others) :: groups =>
          if comparedPart given line = comparedPart given next then
            (line :: next :: others) :: groups
          else [line] :: (next :: others) :: groups
      | groups => [line] :: groups

def uniqOptions : Options :=
  ⟨"cdDuiz".toList, "fsw".toList,
    [("count", 'c'), ("repeated", 'd'), ("unique", 'u'), ("ignore-case", 'i'),
      ("skip-fields", 'f'), ("skip-chars", 's'), ("check-chars", 'w'),
      ("zero-terminated", 'z')]⟩

/-- Of neighbouring lines that are the same, only the first one is written. -/
def uniq : Tool := withOptions "uniq" uniqOptions 1 fun given => do
  match given.operands with
  | _ :: _ :: extra :: _ => return ← extraOperand "uniq" extra 1
  | _ => pure ()
  let isSound := ['f', 's', 'w'].all fun letter =>
    (given.value? letter).all fun text => (size? text).isSome
  if !isSound then return 1
  let separator := if given.has 'z' then '\x00' else '\n'
  let (found, complete) ← contents "uniq" given.operands
  let groups := groupsOf given (linesOf separator (found.flatMap Prod.snd)).1
  let wanted := groups.filter fun group =>
    if given.has 'D' then 1 < group.length
    else (!given.has 'd' || 1 < group.length) && (!given.has 'u' || group.length = 1)
  let status ← Work.put (wanted.flatMap fun group =>
    if given.has 'D' then group.flatMap fun line => line ++ [separator]
    else (if given.has 'c' then Text.padLeft 7 (Text.ofNat group.length) ++ [' '] else []) ++
      group.headD [] ++ [separator])
  return max status (codeOf complete)

/-- The lines of two sorted lists in order, each with the list it comes from, or with three for
both. -/
def merged : Nat → List Text → List Text → List (Nat × Text)
  | 0, _, _ => []
  | _ + 1, [], second => second.map fun line => (2, line)
  | _ + 1, first, [] => first.map fun line => (1, line)
  | fuel + 1, line :: first, other :: second =>
      if line = other then (3, line) :: merged fuel first second
      else if Text.le line other then (1, line) :: merged fuel first (other :: second)
      else (2, other) :: merged fuel (line :: first) second

/-- The lines that two sorted files have alone or in common, in three columns. -/
def comm : Tool := withOptions "comm" ⟨['1', '2', '3', 'z'], [], []⟩ 1 fun given => do
  match given.operands with
  | [] => return ← missingOperand "comm" 1
  | [operand] => return ← refuse "comm" (Text.of "missing operand after " ++ quoted operand) 1
  | _ :: _ :: extra :: _ => return ← extraOperand "comm" extra 1
  | _ => pure ()
  let (found, complete) ← contents "comm" given.operands
  match found with
  | [(_, first), (_, second)] => do
      let first := (linesOf '\n' first).1
      let second := (linesOf '\n' second).1
      let shows (column : Nat) : Bool := !given.has (Char.ofNat (column + '0'.toNat))
      let indent (column : Nat) : Text :=
        List.replicate ((List.range column).filter fun other => 0 < other ∧ shows other).length
          '\t'
      let status ← Work.put
        ((merged (first.length + second.length + 1) first second).flatMap fun (column, line) =>
          if shows column then indent column ++ line ++ ['\n'] else [])
      let isSorted (lines : List Text) : Bool :=
        (lines.zip (lines.drop 1)).all fun (line, next) => Text.le line next
      return if isSorted first && isSorted second then max status (codeOf complete) else 1
  | _ => return 1

end Promptline.Tool
