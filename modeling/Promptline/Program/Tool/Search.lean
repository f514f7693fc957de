/-
This file defines the program that searches for lines.
-/

import Promptline.Program.Regex.Reader
import Promptline.Program.Tool.Options

namespace Promptline.Tool

/-- The bytewise form of a part of the characters of a text. -/
def bytesOf (text part : Text) : Text :=
  if (Text.ofBytewise? text).isSome then part.bytewise else part

/-- How lines are searched: letters for the way of writing expressions and for what counts as a
match. -/
structure Search where
  regex : Regex
  foldsCase : Bool
  wholeWords : Bool
  wholeLines : Bool
  inverted : Bool

namespace Search

def allows (search : Search) (first last : Regex.Spot) : Bool :=
  (!search.wholeLines || (first.position = 0 && last.rest = [])) &&
    (!search.wholeWords || (!Regex.isBehindWord first && !Regex.isBeforeWord last))

def find? (search : Search) (spot : Regex.Spot) : Option Regex.Match :=
  search.regex.find? search.foldsCase search.allows spot

/-- The line is one that is looked for. -/
def selects (search : Search) (line : Text) : Bool :=
  (search.find? (.ofText line.characters)).isSome ≠ search.inverted

/-- The matching parts of a line. An empty one is passed over. -/
def partsWithin (search : Search) : Nat → Regex.Spot → List Text
  | 0, _ => []
  | fuel + 1, spot =>
      match search.find? spot with
      | none => []
      | some found =>
          let before := found.position - spot.position
          if found.text = [] then partsWithin search fuel (spot.advance (before + 1))
          else found.text :: partsWithin search fuel (spot.advance (before + found.text.length))

def parts (search : Search) (line : Text) : List Text :=
  let text := line.characters
  (partsWithin search (text.length + 1) (.ofText text)).map (bytesOf line)

end Search

def searchOptions : Options :=
  ⟨"EFGPiyvcnoqslLwxhHazbrRTUZ".toList, "efmABCdD".toList,
    [("extended-regexp", 'E'), ("fixed-strings", 'F'), ("basic-regexp", 'G'), ("ignore-case", 'i'),
      ("invert-match", 'v'), ("count", 'c'), ("line-number", 'n'), ("only-matching", 'o'),
      ("quiet", 'q'), ("silent", 'q'), ("no-messages", 's'), ("files-with-matches", 'l'),
      ("files-without-match", 'L'), ("word-regexp", 'w'), ("line-regexp", 'x'),
      ("no-filename", 'h'), ("with-filename", 'H'), ("text", 'a'), ("null-data", 'z'),
      ("regexp", 'e'), ("file", 'f'), ("max-count", 'm'), ("after-context", 'A'),
      ("before-context", 'B'), ("context", 'C')]⟩

/-- The expression for one of some lines. -/
def patternOf? (letter : Char) (lines : List Text) : Option Regex := do
  let read (line : Text) : Option Regex :=
    if letter = 'F' then some (.literal line.characters)
    else Regex.read? (letter = 'E') (letter = 'E') line.characters
  match ← lines.mapM read with
  | [] => return .bracket false [] []
  | first :: rest => return rest.foldl Regex.choice first

/-- The lines that are shown, each with its number, where some around a selected one go with it. -/
structure Shown where
  number : Nat
  selected : Bool
  line : Text

/-- Each member, from the last to the first, with the latest number that it or a member in front of
it has. -/
def latestNumbers {A : Type} (number? : A → Option Nat) (members : List A) :
    List (Option Nat × A) :=
  (members.foldl (fun (latest?, found) member =>
    let latest? := (number? member).or latest?
    (latest?, (latest?, member) :: found)) ((none : Option Nat), [])).2

def shownLines (before after : Nat) (lines : List (Nat × Bool × Text)) : List Shown :=
  let number? (line : Nat × Bool × Text) : Option Nat := if line.2.1 then some line.1 else none
  let backward := latestNumbers number? lines
  (latestNumbers (fun line => number? line.2) backward).filterMap
    fun (next?, last?, number, selected, line) =>
      if last?.any (number ≤ · + after) ∨ next?.any (· ≤ number + before) then
        some ⟨number, selected, line⟩
      else none

/-- The lines up to the last one that counts. -/
def selectedUpTo (search : Search) (limit? : Option Nat) (lines : List Text) :
    List (Nat × Bool × Text) :=
  let marked := lines.zipIdx.map fun (line, index) => (index + 1, search.selects line, line)
  let count := marked.foldl (fun (count, result) (number, selected, line) =>
    let counts := selected && limit?.all (count < ·)
    (if counts then count + 1 else count, (number, counts, line) :: result)) (0, [])
  count.2.reverse

/-- What is written about one file, and whether some line was selected. -/
def searchReport (given : Given) (search : Search) (showsName : Bool) (name text : Text) :
    Text × Bool :=
  let separator := if given.has 'z' then '\x00' else '\n'
  let limit? := (given.value? 'm').bind size?
  let lines := selectedUpTo search limit? (linesOf separator text).1
  let count := (lines.filter fun line => line.2.1).length
  let label (mark : Char) : Text := if showsName then name ++ [mark] else []
  let context (letter : Char) : Nat :=
    (((given.last? [letter, 'C']).bind given.value?).bind size?).getD 0
  let around := given.last? ['A', 'B', 'C'] |>.isSome
  let isText (line : Text) : Bool := given.has 'a' || (Text.ofBytewise? line).isSome
  let written (shown : Shown) : Text :=
    let mark := if shown.selected then ':' else '-'
    let head := label mark ++ (if given.has 'n' then Text.ofNat shown.number ++ [mark] else [])
    if given.has 'o' then
      if search.inverted ∨ !shown.selected then []
      else (search.parts shown.line).flatMap fun part => head ++ part ++ [separator]
    else head ++ shown.line ++ [separator]
  let shown := shownLines (context 'B') (context 'A') lines
  let isBinary := !given.has 'a' && !given.has 'z' && text.contains '\x00'
  let shown := if isBinary then [] else shown.takeWhile fun shown => isText shown.line
  let pieces := (shown.foldl (fun (last?, pieces) shown =>
    let gap := around && (last?.any fun last => last + 1 < shown.number)
    (some shown.number, ((if gap then Text.of "--\n" else []) ++ written shown) :: pieces))
    ((none : Option Nat), [])).2
  let body := pieces.reverse.flatten
  let output :=
    if given.has 'q' then []
    else if given.has 'L' then (if count = 0 then name ++ ['\n'] else [])
    else if given.has 'l' then (if count ≠ 0 then name ++ ['\n'] else [])
    else if given.has 'c' then label ':' ++ Text.ofNat count ++ ['\n']
    else body
  (output, count ≠ 0)

/-- The input is read up to the point at which the result is known. -/
def searchInput (given : Given) (search : Search) : Work (Except PathFault Work.Source) := do
  let limit? := if given.has 'q' then some 1 else (given.value? 'm').bind size?
  let isKnown (content : Text) : Bool := limit?.any fun limit =>
    limit ≤ ((linesOf '\n' content).1.filter search.selects).length
  if limit?.isNone ∧ !given.has 'c' ∧ !given.has 'l' ∧ !given.has 'L' then
    return ← Work.source ['-']
  let text? ← Work.take 0 fun content => (content.length, limit?.isNone || !isKnown content)
  return .ok ⟨text?.getD [], false⟩

/-- The lines of a text that lists expressions. -/
def patternLines (text : Text) : List Text := (linesOf '\n' text).1

def searchFiles (given : Given) (search : Search) (paths : List Text) : Work Nat := do
  let showsName := given.last? ['h', 'H'] = some 'H' ||
    (1 < paths.length && given.last? ['h', 'H'] ≠ some 'h')
  let mut found := false
  let mut complete := true
  for path in paths do
    let name := if path = ['-'] then Text.of "(standard input)" else path
    let result ← if path = ['-'] then searchInput given search else Work.source path
    match result with
    | .ok _ => pure ()
    | .error fault => do
        complete := false
        if !given.has 's' then discard (fail "grep" (readComplaint "grep" path fault) 2)
    if result.toOption.isSome || result matches .error .isDirectory then
      let source := result.toOption.getD ⟨[], false⟩
      let (output, matched) := searchReport given search showsName name source.text
      discard (Work.pour ⟨output, source.endless⟩)
      found := found || matched
  if given.has 'q' ∧ found then return 0
  return if !complete then 2 else if found then 0 else 1

/-- The lines that match an expression, where a letter tells how the expression is written. -/
def grep (standard : Char) : Tool := withOptions "grep" searchOptions 2 fun given => do
  let fromFiles ← (given.options.filter fun option => option.1 = 'f').mapM fun option =>
    Work.content option.2
  let listed := (given.options.filter fun option => option.1 = 'e').map Prod.snd
  let letter := (given.last? ['E', 'F', 'G', 'P']).getD standard
  let isGiven := given.has 'e' || given.has 'f'
  let patterns? : Option (List Text) :=
    if isGiven then do
      let files ← fromFiles.mapM fun result => result.toOption
      return listed.flatMap (Text.pieces (· = '\n')) ++ files.flatMap patternLines
    else given.operands.head?.map (Text.pieces (· = '\n'))
  let regex? := patterns?.bind (patternOf? (if letter = 'P' then 'E' else letter))
  match regex? with
  | none => return 2
  | some regex =>
      let search : Search := {
        regex
        foldsCase := given.has 'i' || given.has 'y'
        wholeWords := given.has 'w'
        wholeLines := given.has 'x'
        inverted := given.has 'v' }
      let paths := if isGiven then given.operands else given.operands.drop 1
      searchFiles given search (if paths = [] then [['-']] else paths)

end Promptline.Tool
