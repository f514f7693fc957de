/-
This file defines scripts that edit a stream of lines, and what they write.
-/

import Promptline.Program.Regex
import Promptline.Text.Bytes

namespace Promptline

/-- An expression of a script. The empty one stands for the one that was used last. -/
structure StreamRegex where
  regex? : Option Regex
  foldsCase : Bool
  deriving DecidableEq, Repr

/-- A line that commands apply to. -/
inductive StreamAddress where
  | line (number : Nat)
  | last
  | step (first size : Nat)
  | regex (regex : StreamRegex)
  deriving DecidableEq, Repr

/-- Where a range of lines ends. -/
inductive StreamEnd where
  | address (address : StreamAddress)
  | count (lines : Nat)
  | multiple (size : Nat)
  deriving DecidableEq, Repr

/-- The lines that a command applies to. -/
structure StreamSelector where
  first? : Option StreamAddress
  stop? : Option StreamEnd
  negated : Bool
  deriving DecidableEq, Repr

/-- How the letters behind a place are changed. -/
inductive LetterCase where
  | upper
  | lower
  deriving DecidableEq, Repr

/-- A part of the text that takes the place of a match. -/
inductive ReplacementPart where
  | text (text : Text)
  | group (index : Nat)
  | turn (case? : Option LetterCase)
  | turnNext (case : LetterCase)
  deriving DecidableEq, Repr

structure Substitution where
  regex : StreamRegex
  replacement : List ReplacementPart
  /-- The first match that is replaced. -/
  number : Nat
  all : Bool
  prints : Bool
  file? : Option Text
  deriving DecidableEq, Repr

inductive StreamCommand where
  | opening
  | closing
  | label (name : Text)
  | branch (when? : Option Bool) (target : Text)
  | substitute (substitution : Substitution)
  | exchange (pairs : List (Char × Char))
  | append (text : Text)
  | insert (text : Text)
  | change (text : Text)
  | readFile (path : Text)
  | writeFile (path : Text)
  | quit (code : Nat) (prints : Bool)
  /-- A command of a letter alone. -/
  | letter (letter : Char)
  deriving DecidableEq, Repr

structure StreamStep where
  selector : StreamSelector
  command : StreamCommand
  /-- The step to go on with, for a command that leads elsewhere. -/
  target : Nat
  deriving DecidableEq, Repr

structure StreamScript where
  steps : Array StreamStep
  /-- Lines are written only by commands. -/
  quiet : Bool
  deriving Repr

/-- The lines that are left, and what the script keeps between its steps. -/
structure Stream where
  rest : List (Text × Bool)
  number : Nat
  pattern : Text
  /-- The present line is ended in the input. -/
  ended : Bool
  hold : Text
  holdEnded : Bool
  replaced : Bool
  /-- The ranges that are open, by the steps they belong to, with the lines at which they end if
  that is known. -/
  ranges : List (Nat × Option Nat)
  lastRegex? : Option StreamRegex
  /-- What is written behind the present line. -/
  queue : List (Except Text Text)
  output : List Text
  /-- The last line that was written is not ended. -/
  isOpen : Bool
  written : List (Text × Text)
  deriving Repr

namespace Stream

def ofLines (lines : List (Text × Bool)) : Stream :=
  ⟨lines, 0, [], true, [], true, false, [], none, [], [], false, []⟩

/-- The whole output. -/
def text (stream : Stream) : Text := stream.output.reverse.flatten

/-- A text is written behind what is there, and a line that was open is ended first. -/
def write (stream : Stream) (text : Text) : Stream :=
  { stream with
    output := text :: (if stream.isOpen then [['\n']] else []) ++ stream.output
    isOpen := false }

def writeLine (stream : Stream) (line : Text) : Stream :=
  if stream.ended then stream.write (line ++ ['\n'])
  else { stream.write line with isOpen := true }

/-- A line goes to a file, or to the output if the file stands for it. -/
def writeTo (stream : Stream) (path line : Text) : Stream :=
  if path = Text.of "/dev/stdout" then stream.writeLine line
  else { stream with written := stream.written ++ [(path, line ++ ['\n'])] }

/-- What was queued is written. -/
def flush (files : Text → Text) (stream : Stream) : Stream :=
  let stream := stream.queue.reverse.foldl (fun stream queued =>
    match queued with
    | .ok text => stream.write text
    | .error path => if files path = [] then stream else stream.write (files path)) stream
  { stream with queue := [] }

/-- The next line becomes the present one. -/
def advance? (stream : Stream) : Option Stream :=
  match stream.rest with
  | [] => none
  | (line, ended) :: rest =>
      some { stream with rest, number := stream.number + 1, pattern := line, ended }

/-- The expression that counts, which is the last one from now on. -/
def resolve (stream : Stream) (regex : StreamRegex) : StreamRegex × Stream :=
  match regex.regex?, stream.lastRegex? with
  | none, some last => (last, stream)
  | _, _ => (regex, { stream with lastRegex? := some regex })

def matchesRegex (stream : Stream) (regex : StreamRegex) : Bool × Stream :=
  let (regex, stream) := stream.resolve regex
  (regex.regex?.any fun found => found.occursIn regex.foldsCase stream.pattern, stream)

def isAt (stream : Stream) : StreamAddress → Bool × Stream
  | .line number => (stream.number = number, stream)
  | .last => (stream.rest = [], stream)
  | .step first size =>
      (if size = 0 then stream.number = first
        else first ≤ stream.number ∧ (stream.number - first) % size = 0, stream)
  | .regex regex => stream.matchesRegex regex

/-- The range of a step is closed, or open to a line. -/
def setRange (stream : Stream) (index : Nat) (state? : Option (Option Nat)) : Stream :=
  let others := stream.ranges.filter fun range => range.1 ≠ index
  { stream with ranges := (state?.map fun stop? => (index, stop?)).toList ++ others }

/-- The range of a step goes on with the present line, which may be its last one. -/
def continueRange (stream : Stream) (index : Nat) (stop : StreamEnd) (stop? : Option Nat) :
    Bool × Stream :=
  match stop?, stop with
  | some last, _ =>
      if last ≤ stream.number then (stream.number = last, stream.setRange index none)
      else (true, stream)
  | none, .address address =>
      let (isLast, stream) := stream.isAt address
      (true, if isLast then stream.setRange index none else stream)
  | none, _ => (true, stream)

/-- The range of a step begins with the present line. -/
def beginRange (stream : Stream) (index : Nat) (stop : StreamEnd) : Stream :=
  let until_ (last : Nat) : Stream :=
    if last ≤ stream.number then stream else stream.setRange index (some (some last))
  match stop with
  | .address (.line last) => until_ last
  | .address _ => stream.setRange index (some none)
  | .count lines => until_ (stream.number + lines)
  | .multiple size =>
      until_ (if size = 0 then 0 else (stream.number / size + 1) * size)

/-- A range that begins in front of the first line is open from the start. -/
def openedRanges (script : StreamScript) : List (Nat × Option Nat) :=
  script.steps.toList.zipIdx.filterMap fun (step, index) =>
    match step.selector.first?, step.selector.stop? with
    | some (.line 0), some (.address _) => some (index, none)
    | _, _ => none

/-- The step applies to the present line. -/
def selects (stream : Stream) (index : Nat) (selector : StreamSelector) : Bool × Stream :=
  let (selected, stream) :=
    match selector.first?, selector.stop? with
    | none, _ => (true, stream)
    | some first, none => stream.isAt first
    | some first, some stop =>
        match stream.ranges.lookup index with
        | some stop? => stream.continueRange index stop stop?
        | none =>
            let (begins, stream) := stream.isAt first
            (begins, if begins then stream.beginRange index stop else stream)
  (selected ≠ selector.negated, stream)

def turned (case? : Option LetterCase) (text : Text) : Text :=
  match case? with
  | some .upper => text.map Char.toUpper
  | some .lower => text.map Char.toLower
  | none => text

/-- The text for a match. One letter can be turned on its own. -/
def replacementText (found : Regex.Match) (case? next? : Option LetterCase) :
    List ReplacementPart → Text
  | [] => []
  | part :: rest =>
      let put (text : Text) : Text :=
        match text with
        | [] => replacementText found case? next? rest
        | c :: more =>
            turned (next?.or case?) [c] ++ turned case? more ++
              replacementText found case? none rest
      match part with
      | .text text => put text
      | .group 0 => put found.text
      | .group index => put ((found.groups.lookup index).getD [])
      | .turn case? => replacementText found case? none rest
      | .turnNext next => replacementText found case? (some next) rest

/-- The text with its matches replaced from a number on, and whether there was one. A match without
characters does not follow another one directly. -/
def replaceWithin (regex : Regex) (foldsCase : Bool) (substitution : Substitution) (number : Nat)
    (afterMatch : Bool) : Nat → Regex.Spot → Text × Bool
  | 0, spot => (spot.rest, false)
  | fuel + 1, spot =>
      match regex.find? foldsCase Regex.anywhere spot with
      | none => (spot.rest, false)
      | some found =>
          let before := spot.rest.take (found.position - spot.position)
          let behind := spot.advance (before.length + found.text.length)
          let isRepeated := found.text = [] && before = [] && afterMatch
          let counts := !isRepeated
          let chosen := counts &&
            (number = substitution.number || (substitution.all && substitution.number ≤ number))
          let shown :=
            if chosen then replacementText found none none substitution.replacement
            else found.text
          if chosen ∧ !substitution.all then (before ++ shown ++ behind.rest, true)
          else
            let number := if counts then number + 1 else number
            let (skipped, next) :=
              if found.text = [] then (behind.rest.take 1, behind.advance 1) else ([], behind)
            if found.text = [] ∧ behind.rest = [] then (before ++ shown, chosen)
            else
              let (text, replaced) :=
                replaceWithin regex foldsCase substitution number (found.text ≠ []) fuel next
              (before ++ shown ++ skipped ++ text, chosen || replaced)

def substitute (stream : Stream) (substitution : Substitution) : Stream :=
  let (regex, stream) := stream.resolve substitution.regex
  match regex.regex? with
  | none => stream
  | some found =>
      let (pattern, replaced) := replaceWithin found regex.foldsCase substitution 1 false
        (stream.pattern.length + 2) (.ofText stream.pattern)
      if !replaced then stream
      else
        let stream := { stream with pattern, replaced := true }
        let stream := if substitution.prints then stream.writeLine pattern else stream
        match substitution.file? with
        | some path => stream.writeTo path pattern
        | none => stream

/-- A line in a form that shows every byte. -/
def visibleLine (text : Text) : Text :=
  let octal (c : Char) : Text := (Text.bytewise [c]).flatMap fun byte =>
    let digits := Nat.toDigits 8 byte.toNat
    '\\' :: List.replicate (3 - digits.length) '0' ++ digits
  let shown (c : Char) : Text :=
    match c with
    | '\\' => ['\\', '\\']
    | '\x07' => ['\\', 'a']
    | '\x08' => ['\\', 'b']
    | '\x0c' => ['\\', 'f']
    | '\n' => ['\\', 'n']
    | '\r' => ['\\', 'r']
    | '\t' => ['\\', 't']
    | '\x0b' => ['\\', 'v']
    | c => if ' ' ≤ c ∧ c ≤ '~' then [c] else octal c
  let (lines, last) := (text.map shown).foldl (fun (lines, line) piece =>
    if 69 < line.length + piece.length then (lines ++ line ++ ['\\', '\n'], piece)
    else (lines, line ++ piece)) (([] : Text), ([] : Text))
  lines ++ last ++ ['$', '\n']

/-- What a step leads to. -/
inductive Next where
  | step (index : Nat)
  /-- The line is done, and written unless it is deleted. -/
  | line (deleted : Bool)
  /-- The script starts again without another line. -/
  | again
  | quit (code : Nat) (prints : Bool)
  deriving DecidableEq, Repr

/-- The first line of several, and what stands behind its end. -/
def firstLine (text : Text) : Text × Option Text :=
  match Text.splitAt? '\n' text with
  | some (line, rest) => (line, some rest)
  | none => (text, none)

/-- A command of a letter alone, at the step with the given index. -/
def runLetter (script : StreamScript) (files : Text → Text) (stream : Stream) (index : Nat)
    (letter : Char) : Stream × Next :=
  let next := Next.step (index + 1)
  match letter with
  | '=' => (stream.write (Text.ofNat stream.number ++ ['\n']), next)
  | 'd' => (stream, .line true)
  | 'D' =>
      match firstLine stream.pattern with
      | (_, some rest) => ({ stream with pattern := rest }, .again)
      | (_, none) => (stream, .line true)
  | 'g' => ({ stream with pattern := stream.hold, ended := stream.holdEnded }, next)
  | 'G' =>
      ({ stream with
        pattern := stream.pattern ++ '\n' :: stream.hold, ended := stream.holdEnded }, next)
  | 'h' => ({ stream with hold := stream.pattern, holdEnded := stream.ended }, next)
  | 'H' =>
      ({ stream with
        hold := stream.hold ++ '\n' :: stream.pattern, holdEnded := stream.ended }, next)
  | 'x' =>
      ({ stream with
        pattern := stream.hold, ended := stream.holdEnded
        hold := stream.pattern, holdEnded := stream.ended }, next)
  | 'z' => ({ stream with pattern := [] }, next)
  | 'p' => (stream.writeLine stream.pattern, next)
  | 'P' =>
      match firstLine stream.pattern with
      | (line, some _) => (stream.write (line ++ ['\n']), next)
      | (line, none) => (stream.writeLine line, next)
  | 'l' => (stream.write (visibleLine stream.pattern), next)
  | 'F' => (stream.write ['-', '\n'], next)
  | 'n' =>
      if stream.rest = [] then (stream, .quit 0 true)
      else
        let stream := if script.quiet then stream else stream.writeLine stream.pattern
        let stream := stream.flush files
        ((stream.advance?).getD stream, next)
  | 'N' =>
      let stream := stream.flush files
      match stream.advance? with
      | some after => ({ after with pattern := stream.pattern ++ '\n' :: after.pattern }, next)
      | none => (stream, .quit 0 true)
  | _ => (stream, next)

def runCommand (script : StreamScript) (files : Text → Text) (stream : Stream) (index : Nat)
    (step : StreamStep) : Stream × Next :=
  let next := Next.step (index + 1)
  match step.command with
  | .opening | .closing | .label _ => (stream, next)
  | .branch none _ => (stream, .step step.target)
  | .branch (some wanted) _ =>
      let goes := stream.replaced = wanted
      ({ stream with replaced := false }, if goes then .step step.target else next)
  | .substitute substitution => (stream.substitute substitution, next)
  | .exchange pairs =>
      ({ stream with pattern := stream.pattern.map fun c => (pairs.lookup c).getD c }, next)
  | .append text => ({ stream with queue := .ok text :: stream.queue }, next)
  | .insert text => (stream.write text, next)
  | .change text =>
      let goesOn := step.selector.stop?.isSome && !step.selector.negated &&
        (stream.ranges.lookup index).isSome
      (if goesOn then stream else stream.write text, .line true)
  | .readFile path => ({ stream with queue := .error path :: stream.queue }, next)
  | .writeFile path => (stream.writeTo path stream.pattern, next)
  | .quit code prints => (stream, .quit code prints)
  | .letter letter => runLetter script files stream index letter

/-- The end of the run of a script over one line. -/
def finishLine (script : StreamScript) (files : Text → Text) (stream : Stream) (writes : Bool) :
    Stream :=
  let stream := if writes ∧ !script.quiet then stream.writeLine stream.pattern else stream
  stream.flush files

/-- The script is run from a step on, with at most as many steps as given. The result tells the code
and whether the script ended by itself. -/
def run (script : StreamScript) (files : Text → Text) :
    Nat → Nat → Stream → Option (Stream × Nat × Bool)
  | 0, _, _ => none
  | fuel + 1, index, stream =>
      let nextLine (stream : Stream) : Option (Stream × Nat × Bool) :=
        match stream.advance? with
        | some stream => run script files fuel 0 { stream with replaced := false }
        | none => some (stream, 0, false)
      match script.steps[index]? with
      | none => nextLine (finishLine script files stream true)
      | some step =>
          let (selected, stream) := stream.selects index step.selector
          let (stream, next) :=
            if selected then runCommand script files stream index step
            else (stream, .step (if step.command = .opening then step.target else index + 1))
          match next with
          | .step index => run script files fuel index stream
          | .line deleted => nextLine (finishLine script files stream !deleted)
          | .again => run script files fuel 0 (finishLine script files stream false)
          | .quit code prints => some (finishLine script files stream prints, code, true)

/-- The script is run over lines. -/
def edit (script : StreamScript) (files : Text → Text) (fuel : Nat) (lines : List (Text × Bool)) :
    Option (Stream × Nat × Bool) :=
  match (ofLines lines).advance? with
  | none => some (ofLines lines, 0, false)
  | some stream => run script files fuel 0 { stream with ranges := openedRanges script }

end Stream

end Promptline
