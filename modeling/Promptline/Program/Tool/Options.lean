/-
This file reads the options of programs. They may stand behind other arguments, and two dashes end
them.
-/

import Promptline.Program.Work

namespace Promptline

/-- A program gets its arguments and ends with a code. -/
abbrev Tool := List Text → Work Nat

namespace Tool

/-- A word as messages quote it. -/
def quoted (text : Text) : Text := Text.bytewise ['‘'] ++ text ++ Text.bytewise ['’']

/-- A path as messages quote it. -/
def quotedPath (path : Text) : Text := '\'' :: path ++ ['\'']

/-- The program ends after a message. -/
def fail (program : String) (reason : Text) (code : Nat) : Work Nat := do
  Work.complain (Text.of program ++ Text.of ": " ++ reason)
  return code

/-- The program ends because it was not started in the right way. -/
def refuse (program : String) (reason : Text) (code : Nat) : Work Nat := do
  discard (fail program reason code)
  Work.complain (Text.of s!"Try '{program} --help' for more information.")
  return code

/-- The program misses an argument, or has one that it cannot use. -/
def missingOperand (program : String) (code : Nat) : Work Nat :=
  refuse program (Text.of "missing operand") code

def extraOperand (program : String) (operand : Text) (code : Nat) : Work Nat :=
  refuse program (Text.of "extra operand " ++ quoted operand) code

/-- Why options cannot be read. -/
inductive OptionFault where
  | unknownLetter (letter : Char)
  | unknownName (word : Text)
  | letterWithoutValue (letter : Char)
  | nameWithoutValue (name : Text)
  | nameWithValue (name : Text)
  deriving DecidableEq, Repr

def OptionFault.message : OptionFault → Text
  | unknownLetter letter => Text.of "invalid option -- " ++ quotedPath [letter]
  | unknownName word => Text.of "unrecognized option " ++ quotedPath word
  | letterWithoutValue letter => Text.of "option requires an argument -- " ++ quotedPath [letter]
  | nameWithoutValue name =>
      Text.of "option " ++ quotedPath name ++ Text.of " requires an argument"
  | nameWithValue name =>
      Text.of "option " ++ quotedPath name ++ Text.of " doesn't allow an argument"

/-- The options of a program: letters without and with a value, and long names for letters. -/
structure Options where
  plain : List Char
  valued : List Char
  names : List (String × Char)

/-- The options that were given, with their values, and the other arguments. -/
structure Given where
  options : List (Char × Text)
  operands : List Text
  deriving DecidableEq, Repr

namespace Given

def has (given : Given) (letter : Char) : Bool := given.options.any fun option => option.1 = letter

/-- The value that was given last. -/
def value? (given : Given) (letter : Char) : Option Text :=
  (given.options.reverse.find? fun option => option.1 = letter).map Prod.snd

/-- The letter that was given last, out of some. -/
def last? (given : Given) (letters : List Char) : Option Char :=
  ((given.options.map Prod.fst).filter letters.contains).getLast?

def addOption (letter : Char) (value : Text) (given : Given) : Given :=
  { given with options := (letter, value) :: given.options }

def addOperand (operand : Text) (given : Given) : Given :=
  { given with operands := operand :: given.operands }

end Given

namespace Options

/-- The long name that another one is or abbreviates, with its letter. An abbreviation has to stand
for one letter only. -/
def named? (options : Options) (name : Text) : Option (String × Char) :=
  match options.names.find? fun (long, _) => Text.of long = name with
  | some found => some found
  | none =>
      let found := options.names.filter fun (long, _) => name.isPrefixOf (Text.of long)
      match (found.map Prod.snd).eraseDups with
      | [_] => found.head?
      | _ => none

/-- The options among the arguments. -/
def parse (options : Options) : List Text → Except OptionFault Given
  | [] => .ok ⟨[], []⟩
  | word :: rest =>
      match word with
      | ['-', '-'] => .ok ⟨[], rest⟩
      | '-' :: '-' :: long =>
          let (name, value?) :=
            match Text.splitAt? '=' long with
            | some (name, value) => (name, some value)
            | none => (long, none)
          match options.named? name with
          | none => .error (.unknownName word)
          | some (full, letter) =>
              let shown := Text.of ("--" ++ full)
              if options.valued.contains letter then
                match value?, rest with
                | some value, rest => (options.parse rest).map (Given.addOption letter value)
                | none, value :: rest => (options.parse rest).map (Given.addOption letter value)
                | none, [] => .error (.nameWithoutValue shown)
              else if value?.isSome then .error (.nameWithValue shown)
              else (options.parse rest).map (Given.addOption letter [])
      | '-' :: c :: more => group options (c :: more) rest
      | word => (options.parse rest).map (Given.addOperand word)
where
  group (options : Options) : Text → List Text → Except OptionFault Given
    | [], rest => options.parse rest
    | c :: more, rest =>
        if options.plain.contains c then
          (group options more rest).map (Given.addOption c [])
        else if options.valued.contains c then
          match more, rest with
          | [], value :: rest => (options.parse rest).map (Given.addOption c value)
          | [], [] => .error (.letterWithoutValue c)
          | value, rest => (options.parse rest).map (Given.addOption c value)
        else .error (.unknownLetter c)

end Options

/-- The tool is run with its options, or it refuses them with a code. -/
def withOptions (program : String) (options : Options) (code : Nat) (body : Given → Work Nat) :
    Tool := fun arguments =>
  match options.parse arguments with
  | .ok given => body given
  | .error fault => refuse program fault.message code

/-- The whole number that a text stands for, with the letter of a multiple behind it. -/
def size? (text : Text) : Option Nat :=
  let digits := text.takeWhile Char.isDigit
  let unit? : Option Nat :=
    match String.ofList (text.dropWhile Char.isDigit) with
    | "" => some 1
    | "b" => some 512
    | "kB" | "KB" => some 1000
    | "K" | "k" | "KiB" => some 1024
    | "M" | "MiB" => some 1048576
    | "MB" => some 1000000
    | "G" | "GiB" => some 1073741824
    | "GB" => some 1000000000
    | _ => none
  if digits = [] then none else unit?.map fun unit => (String.ofList digits).toNat?.getD 0 * unit

/-- The lines of a text, and whether the last one is ended. -/
def linesOf (separator : Char) (text : Text) : List Text × Bool :=
  let pieces := Text.pieces (· = separator) text
  if pieces.getLast? = some [] then (pieces.dropLast, true) else (pieces, text = [])

/-- The lines with their ends, of which the last one may have none. -/
def endedLines (separator : Char) (text : Text) : List Text :=
  let (lines, ended) := linesOf separator text
  lines.zipIdx.map fun (line, index) =>
    if ended ∨ index + 1 < lines.length then line ++ [separator] else line

/-- What a program says about a path that cannot be read. -/
def readComplaint (program : String) (path : Text) (fault : PathFault) : Text :=
  let quotedPath := quotedPath path
  let before :=
    match program with
    | "head" | "tail" =>
        if fault = .isDirectory then Text.of "error reading " ++ quotedPath
        else Text.of "cannot open " ++ quotedPath ++ Text.of " for reading"
    | "tac" =>
        if fault = .isDirectory then path ++ Text.of ": read error"
        else Text.of "failed to open " ++ quotedPath ++ Text.of " for reading"
    | "sort" => Text.of (if fault = .isDirectory then "read failed: " else "cannot read: ") ++ path
    | "sed" =>
        if fault = .isDirectory then Text.of "read error on " ++ path
        else Text.of "can't read " ++ path
    | "rev" => Text.of "cannot open " ++ path
    | _ => path
  before ++ Text.of ": " ++ fault.description

/-- What the paths lead to, or the input if there are none. Paths that cannot be read are reported,
and the second part tells whether there are none of them. A directory may count as an empty file
once it has been reported. -/
def gather (keepsDirectories : Bool) (program : String) (paths : List Text) :
    Work (List (Text × Work.Source) × Bool) := do
  let paths := if paths = [] then [['-']] else paths
  let mut found := []
  let mut complete := true
  for path in paths do
    match ← Work.source path with
    | .ok source => found := found ++ [(path, source)]
    | .error fault =>
        complete := (← fail program (readComplaint program path fault) 1) = 0
        if keepsDirectories ∧ fault = .isDirectory then found := found ++ [(path, ⟨[], false⟩)]
  return (found, complete)

/-- What the paths lead to, without those that cannot be read. -/
def sources (program : String) (paths : List Text) : Work (List (Text × Work.Source) × Bool) :=
  gather false program paths

/-- The contents of files that all have to end. -/
def contents (program : String) (paths : List Text) : Work (List (Text × Text) × Bool) := do
  let (found, complete) ← sources program paths
  if found.any fun (_, source) => source.endless then throw .never
  return (found.map fun (path, source) => (path, source.text), complete)

/-- The code of a program that has read all its files, or not. -/
def codeOf (complete : Bool) : Nat := if complete then 0 else 1

/-- The files one behind the other are turned into output. -/
def passOn (program : String) (paths : List Text) (turn : Text → Text) : Work Nat := do
  let (found, complete) ← sources program paths
  let status ← Work.pour ⟨turn (found.flatMap fun (_, source) => source.text),
    found.any fun (_, source) => source.endless⟩
  return max status (codeOf complete)

/-- The lines of the files are turned one by one. -/
def passLines (program : String) (paths : List Text) (separator : Char) (turn : Text → Text) :
    Work Nat := do
  let (found, complete) ← sources program paths
  let status ← Work.pour
    ⟨found.flatMap fun (_, source) => (endedLines separator source.text).flatMap turn,
      found.any fun (_, source) => source.endless⟩
  return max status (codeOf complete)

end Tool

end Promptline
