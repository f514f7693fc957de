/-
This file defines the programs that pass on parts of their input, line by line or byte by byte.
-/

import Promptline.Program.Integer
import Promptline.Program.Tool.Options

namespace Promptline.Tool

/-- A control character, or one with the highest bit, in a form that can be seen. -/
def visible (keeps : Char → Bool) (c : Char) : Text :=
  let code := c.toNat
  let low (code : Nat) : Text :=
    if code < 32 then ['^', Char.ofNat (code + 64)]
    else if code = 127 then ['^', '?'] else [Char.ofNat code]
  if keeps c then [c]
  else if 128 ≤ code then ['M', '-'] ++ low (code - 128) else low code

/-- A number in a column of six, behind which a tab stands. -/
def numberColumn (n : Nat) : Text := Text.padLeft 6 (Text.ofNat n) ++ ['\t']

/-- The lines as the cat program shows them, with the number of the next line and whether the last
line was blank. -/
def showLines (given : Given) : Nat → Bool → List Text → Text
  | _, _, [] => []
  | number, wasBlank, line :: rest =>
      let ended := line.getLast? = some '\n'
      let body := if ended then line.dropLast else line
      let isBlank := body = []
      if given.has 's' ∧ isBlank ∧ wasBlank then showLines given number true rest
      else
        let counts := given.has 'b' && !isBlank || given.has 'n' && !given.has 'b'
        let marks := given.has 'v' || given.has 'A' || given.has 'e' || given.has 't'
        let showsTabs := given.has 'T' || given.has 'A' || given.has 't'
        let showsEnds := given.has 'E' || given.has 'A' || given.has 'e'
        let shown := body.flatMap fun c =>
          if c = '\t' then (if showsTabs then ['^', 'I'] else [c])
          else if marks then visible (fun _ => false) c else [c]
        (if counts then numberColumn number else []) ++ shown ++
          (if showsEnds ∧ ended then ['$'] else []) ++ (if ended then ['\n'] else []) ++
          showLines given (if counts then number + 1 else number) isBlank rest

def cat : Tool :=
  withOptions "cat" ⟨"AbeEnstTuv".toList, [], [("show-all", 'A'), ("number-nonblank", 'b'),
    ("show-ends", 'E'), ("number", 'n'), ("squeeze-blank", 's'), ("show-tabs", 'T'),
    ("show-nonprinting", 'v')]⟩ 1 fun given => do
      let changed := given.options.any fun option => option.1 ≠ 'u'
      passOn "cat" given.operands fun text =>
        if changed then showLines given 1 false (endedLines '\n' text) else text

/-- The parts of a text that end with a separator, or that begin with one. -/
def separated (separator : Text) (begins : Bool) : Nat → Text → Text → List Text
  | 0, part, text => [part ++ text]
  | _ + 1, part, [] => [part]
  | fuel + 1, part, c :: rest =>
      if separator.isPrefixOf (c :: rest) then
        let behind := (c :: rest).drop separator.length
        if begins then part :: separated separator begins fuel separator behind
        else (part ++ separator) :: separated separator begins fuel [] behind
      else separated separator begins fuel (part ++ [c]) rest

/-- The lines of each file in reverse. -/
def tac : Tool := withOptions "tac" ⟨['b'], ['s'], [("before", 'b'), ("separator", 's')]⟩ 1
  fun given => do
    let (found, complete) ← contents "tac" given.operands
    let separator := (given.value? 's').getD ['\n']
    let separator := if separator = [] then ['\x00'] else separator
    let status ← Work.put (found.flatMap fun (_, text) =>
      (separated separator (given.has 'b') (text.length + 1) [] text).reverse.flatten)
    return max status (codeOf complete)

/-- The characters of each line in reverse. A character may have many bytes. -/
def rev : Tool := withOptions "rev" ⟨['0'], [], []⟩ 1 fun given =>
  let turned (line : Text) : Text :=
    match Text.ofBytewise? line with
    | some text => Text.bytewise text.reverse
    | none => line.reverse
  passLines "rev" given.operands '\n' fun line =>
    if line.getLast? = some '\n' then turned line.dropLast ++ ['\n'] else turned line

/-- Options of the old kind are a dash and a number. -/
def modernised (letter : Char) (arguments : List Text) : List Text :=
  match arguments with
  | ('-' :: c :: more) :: rest =>
      let digits := (c :: more).takeWhile Char.isDigit
      let others := (c :: more).dropWhile Char.isDigit
      if c.isDigit ∧ (others = [] ∨ others = ['q'] ∨ others = ['c'] ∨ others = ['n']) then
        (if others = ['c'] then ['-', 'c'] ++ digits else '-' :: letter :: digits) :: rest
      else arguments
  | _ => arguments

/-- The files with a heading for each of them. -/
def withHeadings (given : Given) (found : List (Text × Text)) : Text :=
  let shows := given.last? ['q', 'v'] = some 'v' ||
    (1 < given.operands.length && !given.has 'q')
  found.zipIdx.flatMap fun ((path, text), index) =>
    let name := if path = ['-'] then Text.of "standard input" else path
    (if shows then
      (if index = 0 then [] else ['\n']) ++ Text.of "==> " ++ name ++ Text.of " <==\n"
    else []) ++ text

def headTailOptions : Options :=
  ⟨['q', 'v', 'z', 'f', 'F'], ['n', 'c'], [("lines", 'n'), ("bytes", 'c'), ("quiet", 'q'),
    ("silent", 'q'), ("verbose", 'v'), ("zero-terminated", 'z')]⟩

/-- The amount of an option: its sign, if there is one, and its size. -/
def amount? (text : Text) : Option (Option Char × Nat) :=
  match text with
  | '-' :: rest => (size? rest).map fun size => (some '-', size)
  | '+' :: rest => (size? rest).map fun size => (some '+', size)
  | text => (size? text).map fun size => (none, size)

/-- The parts that an amount counts, which are bytes or lines. -/
def countedParts (given : Given) (text : Text) : List Text :=
  if given.last? ['n', 'c'] = some 'c' then text.map fun c => [c]
  else endedLines (if given.has 'z' then '\x00' else '\n') text

/-- The first parts of a file, or all but the last. -/
def headOf (given : Given) (sign? : Option Char) (size : Nat) (text : Text) : Text :=
  let parts := countedParts given text
  (if sign? = some '-' then parts.take (parts.length - size) else parts.take size).flatten

/-- The last parts of a file, or all from one on. -/
def tailOf (given : Given) (sign? : Option Char) (size : Nat) (text : Text) : Text :=
  let parts := countedParts given text
  (if sign? = some '+' then parts.drop (size - 1)
    else parts.drop (parts.length - size)).flatten

/-- The input as far as it is needed. -/
def inputFor (cut : Text → Text) (waits : Bool) : Work Text := do
  let taken? ← Work.take 0 fun content =>
    (content.length, waits || (cut content).length = content.length)
  return taken?.getD []

def endsOf (program : String) (cut : Given → Option Char → Nat → Text → Text)
    (waits : Option Char → Bool) : Tool := fun arguments =>
  withOptions program headTailOptions 1 (fun given => do
    let amountText := ((given.last? ['n', 'c']).bind given.value?).getD (Text.of "10")
    match amount? amountText with
    | none =>
        let unit := if given.last? ['n', 'c'] = some 'c' then "bytes" else "lines"
        fail program (Text.of s!"invalid number of {unit}: " ++ quoted amountText) 1
    | some (sign?, size) => do
        let cut := cut given sign? size
        if given.operands = [] ∨ given.operands = [['-']] then
          let text ← inputFor cut (waits sign?)
          Work.put (withHeadings given [(['-'], cut text)])
        else do
          let (found, complete) ← gather true program given.operands
          let isWhole (source : Work.Source) : Bool :=
            waits sign? || (cut source.text).length = source.text.length
          if found.any fun (_, source) => source.endless && isWhole source then throw .never
          let status ← Work.put (withHeadings given
            (found.map fun (path, source) => (path, cut source.text)))
          return max status (codeOf complete)) (modernised 'n' arguments)

def head : Tool := endsOf "head" headOf fun sign? => sign? = some '-'

/-- A first argument of the old kind is a plus and a number. -/
def tail : Tool := fun arguments =>
  endsOf "tail" tailOf (fun _ => true) (match arguments with
    | ('+' :: c :: more) :: rest =>
        if (c :: more).all Char.isDigit ∧ rest.length ≤ 1 then
          Text.of "-n" :: ('+' :: c :: more) :: rest
        else arguments
    | arguments => arguments)

/-- The counts of lines, words, characters, bytes and the longest line. -/
def countsOf (text : Text) : List (Char × Nat) :=
  let isBlank (c : Char) : Bool := Integer.isBlank c
  let characters := text.characters
  let lengths := (Text.pieces (· = '\n') characters).map List.length
  [('l', text.count '\n'), ('w', ((Text.pieces isBlank text).filter (· ≠ [])).length),
    ('m', characters.length), ('c', text.length), ('L', lengths.foldl max 0)]

/-- The size of the plain file at a path, where a path that leads nowhere counts as empty. Other
things have no size. -/
def plainSize? (path : Text) : Work (Option Nat) := do
  let machine ← getThe Machine
  if path = ['-'] then
    return match ((← Work.opening? 0).bind (machine.openings[·]?)).map Opening.target with
      | some (.file place) => some (machine.content place).length
      | _ => none
  return match machine.files.find (← read).directory path with
    | .ok (_, .file content) => some content.length
    | .ok (_, .program) | .error _ => some 0
    | .ok _ => none

def wc : Tool :=
  withOptions "wc" ⟨"clLmw".toList, [], [("bytes", 'c'), ("chars", 'm'), ("lines", 'l'),
    ("words", 'w'), ("max-line-length", 'L')]⟩ 1 fun given => do
      let paths := if given.operands = [] then [['-']] else given.operands
      let sizes ← paths.mapM plainSize?
      let (found, complete) ← gather true "wc" paths
      if found.any fun (_, source) => source.endless then throw .never
      let wanted := "lwmcL".toList.filter fun letter =>
        if given.options = [] then ['l', 'w', 'c'].contains letter else given.has letter
      let columns (counts : List (Char × Nat)) : List Nat :=
        (counts.filter fun count => wanted.contains count.1).map Prod.snd
      let rows := found.map fun (path, source) => (path, countsOf source.text)
      let total := "lwmcL".toList.map fun letter =>
        (letter, ((rows.map fun row => ((row.2.lookup letter).getD 0)).foldl
          (if letter = 'L' then max else Nat.add) 0))
      let width :=
        if wanted.length ≤ 1 ∧ paths.length ≤ 1 then 1
        else max (if sizes.all Option.isSome then 1 else 7)
          (Text.ofNat ((sizes.filterMap id).foldr Nat.add 0)).length
      let line (name : Text) (counts : List (Char × Nat)) : Text :=
        Text.join [' '] ((columns counts).map fun n => Text.padLeft width (Text.ofNat n)) ++
          (if name = [] then [] else ' ' :: name) ++ ['\n']
      let body := rows.flatMap fun (path, counts) =>
        line (if given.operands = [] then [] else path) counts
      let status ← Work.put
        (body ++ if 1 < given.operands.length then line (Text.of "total") total else [])
      return max status (codeOf complete)

/-- The lines with their numbers. A blank line has none unless it is asked for. -/
def nl : Tool :=
  withOptions "nl" ⟨['p'], "bdfhilnsvw".toList, []⟩ 1 fun given => do
    let (found, complete) ← contents "nl" given.operands
    let value (letter : Char) (default : Nat) : Nat :=
      ((given.value? letter).bind size?).getD default
    let width := value 'w' 6
    let separator := (given.value? 's').getD ['\t']
    let all := given.value? 'b' = some ['a']
    let format := (given.value? 'n').getD (Text.of "rn")
    let column (n : Nat) : Text :=
      let digits := Text.ofNat n
      let fill (c : Char) : Text := List.replicate (width - digits.length) c
      match String.ofList format with
      | "ln" => digits ++ fill ' '
      | "rz" => fill '0' ++ digits
      | _ => fill ' ' ++ digits
    let (_, text) := (endedLines '\n' (found.flatMap Prod.snd)).foldl
      (fun (number, text) line =>
        let line := if line.getLast? = some '\n' then line else line ++ ['\n']
        if line = ['\n'] ∧ !all then
          (number, text ++ List.replicate (width + separator.length) ' ' ++ line)
        else (number + value 'i' 1, text ++ column number ++ separator ++ line))
      (value 'v' 1, [])
    let status ← Work.put text
    return max status (codeOf complete)

/-- The input goes to the output and to files. -/
def tee : Tool := withOptions "tee" ⟨['a', 'i', 'p'], [], [("append", 'a')]⟩ 1 fun given => do
  let source := ((← Work.flow?).getD ⟨[], false⟩)
  let text := source.text
  let status ← Work.pour source
  let mut complete := true
  for path in given.operands do
    let machine ← getThe Machine
    match machine.files.place (← read).directory path with
    | .error _ => complete := false
    | .ok place =>
        match machine.files.node? place with
        | some .directory => complete := false
        | some (.device _) => pure ()
        | _ =>
            let before := if given.has 'a' then machine.content place else []
            Work.changeFiles fun files => files.put place (.file (before ++ text))
  return max status (codeOf complete)

/-- Lines of several files stand next to each other, or those of each file behind one another. -/
def paste : Tool :=
  withOptions "paste" ⟨['s', 'z'], ['d'], [("serial", 's'), ("delimiters", 'd')]⟩ 1 fun given => do
    let (found, complete) ← gather true "paste" given.operands.eraseDups
    if found.length < given.operands.eraseDups.length then return 1
    if found.any fun (_, source) => source.endless then throw .never
    let escapes : EscapeRules := ⟨false, false, false, false⟩
    let delimiters := (given.value? 'd').map fun text => (escapes.decode text).text
    let delimiter (index : Nat) : Text :=
      match delimiters with
      | none => ['\t']
      | some [] => []
      | some all => [all.getD (index % all.length) '\t']
    let joined (cells : List Text) : Text :=
      (cells.zipIdx.flatMap fun (cell, index) =>
        if index = 0 then cell else delimiter (index - 1) ++ cell) ++ ['\n']
    let linesAt (path : Text) : List Text := ((found.lookup path).map fun source =>
      (linesOf '\n' source.text).1).getD []
    let paths := if given.operands = [] then [['-']] else given.operands
    let inputs := (paths.filter (· = ['-'])).length
    let files := paths.zipIdx.map fun (path, index) =>
      if path ≠ ['-'] ∨ given.has 's' then linesAt path
      else
        let before := ((paths.take index).filter (· = ['-'])).length
        ((linesAt path).zipIdx.filter fun (_, row) => row % inputs = before).map Prod.fst
    let text :=
      if given.has 's' then files.flatMap joined
      else
        let count := (files.map List.length).foldl max 0
        (List.range count).flatMap fun row => joined (files.map fun lines => lines.getD row [])
    let status ← Work.put text
    return max status (codeOf complete)

/-- A line in parts of a width, which end behind a blank if that is wanted and there is one. -/
def folded (width : Nat) (afterBlanks : Bool) : Nat → Text → List Text
  | 0, _ => []
  | fuel + 1, line =>
      if line.length ≤ width then [line]
      else
        let part := line.take width
        let end_ := part.length - (part.reverse.takeWhile fun c => c ≠ ' ' && c ≠ '\t').length
        let size := if afterBlanks ∧ end_ ≠ 0 then end_ else width
        line.take size :: folded width afterBlanks fuel (line.drop size)

def fold : Tool := fun arguments =>
  withOptions "fold" ⟨['b', 's'], ['w'], [("width", 'w'), ("bytes", 'b'), ("spaces", 's')]⟩ 1
    (fun given =>
      match size? ((given.value? 'w').getD (Text.of "80")) with
      | none | some 0 => return 1
      | some width =>
          passLines "fold" given.operands '\n' fun line =>
            let ended := line.getLast? = some '\n'
            let body := if ended then line.dropLast else line
            Text.join ['\n'] (folded width (given.has 's') (body.length + 1) body) ++
              (if ended then ['\n'] else [])) (modernised 'w' arguments)

end Promptline.Tool
