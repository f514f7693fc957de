/-
This file defines the program that edits a stream of lines by a script.
-/

import Promptline.Program.Standing
import Promptline.Program.Stream.Reader
import Promptline.Program.Tool.Options

namespace Promptline.Tool

def editingOptions : Options :=
  ⟨"nErsiuz".toList, "efl".toList,
    [("quiet", 'n'), ("silent", 'n'), ("regexp-extended", 'E'), ("expression", 'e'),
      ("file", 'f'), ("separate", 's'), ("in-place", 'i'), ("null-data", 'z')]⟩

/-- The lines of a text, and which of them are ended. -/
def streamLines (separator : Char) (text : Text) : List (Text × Bool) :=
  (endedLines separator text).map fun line =>
    if line.getLast? = some separator then (line.dropLast, true) else (line, false)

/-- The forms of texts that a script works on: characters if everything has them, and else bytes. -/
structure TextForm where
  isWide : Bool

namespace TextForm

def ofTexts (texts : List Text) : TextForm :=
  ⟨texts.all fun text => (Text.ofBytewise? text).isSome⟩

def inner (form : TextForm) (text : Text) : Text := if form.isWide then text.characters else text

def outer (form : TextForm) (text : Text) : Text := if form.isWide then text.bytewise else text

end TextForm

/-- What a script makes of a text. -/
structure Edited where
  output : Text
  written : List (Text × Text)
  code : Nat
  quits : Bool

/-- The script is run over a text, unless it is faulty. There is no result if it does not end. -/
def edited (given : Given) (source : Text) (files : Text → Text) (text : Text) :
    Except StreamScript.Fault (Option Edited) :=
  let form := TextForm.ofTexts [source, text]
  let extended := given.has 'E' || given.has 'r'
  (StreamScript.ofText extended (given.has 'n') (form.inner source)).map fun script => do
    let separator := if given.has 'z' then '\x00' else '\n'
    let lines := streamLines separator (form.inner text)
    let (stream, code, quits) ←
      Stream.edit script (fun path => form.inner (files (form.outer path))) Standing.patience lines
    return ⟨form.outer stream.text,
      stream.written.map fun (path, line) => (form.outer path, form.outer line), code, quits⟩

/-- The lines that a script writes to files, which are empty before. -/
def writeAll (written : List (Text × Text)) : Work Unit := do
  let directory := (← read).directory
  for path in (written.map Prod.fst).eraseDups do
    match (← getThe Machine).files.place directory path with
    | .ok place =>
        Work.changeFiles fun files => files.put place
          (.file ((written.filter fun line => line.1 = path).flatMap Prod.snd))
    | .error _ => pure ()

/-- The expressions of the options make up the script, and else the first argument does. -/
def scriptOf? (given : Given) : Work (Option Text) := do
  let parts ← (given.options.filter fun (letter, _) => letter = 'e' ∨ letter = 'f').mapM
    fun (letter, value) => do
      if letter = 'e' then return some value
      return (← Work.content value).toOption.map fun text =>
        if text.getLast? = some '\n' then text.dropLast else text
  if parts = [] then return given.operands.head?
  return (parts.mapM id).map (Text.join ['\n'])

/-- Files are edited one by one and get what is written. -/
def editInPlace (given : Given) (source : Text) (readFile : Text → Text) (paths : List Text) :
    Work Nat := do
  let mut code := 0
  for path in paths do
    let directory := (← read).directory
    let files := (← getThe Machine).files
    match files.place directory path, files.read directory path with
    | .ok place, .ok text =>
        match edited given source readFile text with
        | .ok (some result) =>
            Work.changeFiles fun files => files.put place (.file result.output)
        | .ok none => throw .never
        | .error _ => return 1
    | _, _ => code := 4
  return code

def sed : Tool := withOptions "sed" editingOptions 1 fun given => do
  match ← scriptOf? given with
  | none => return 1
  | some source => do
      let hasScript := given.has 'e' || given.has 'f'
      let paths := if hasScript then given.operands else given.operands.drop 1
      let directory := (← read).directory
      let files := (← getThe Machine).files
      let readFile (path : Text) : Text := (files.read directory path).toOption.getD []
      match edited given source readFile [] with
      | .error .malformed => return 1
      | .error .missingLabel => return 4
      | .ok _ => pure ()
      if given.has 'i' then return ← editInPlace given source readFile paths
      let (found, complete) ← sources "sed" paths
      match edited given source readFile (found.flatMap fun (_, source) => source.text) with
      | .ok (some result) => do
          writeAll result.written
          let endless := !result.quits && found.any fun (_, source) => source.endless
          let status ← Work.pour ⟨result.output, endless⟩
          if result.code ≠ 0 then return result.code
          return if complete then (if status = 0 then 0 else 4) else 2
      | .ok none => throw .never
      | .error _ => return 1

end Promptline.Tool
