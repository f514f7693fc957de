/-
This file expands the words of commands: parameters, the output of scripts and numbers take the
places of what refers to them.
-/

import Promptline.Shell.Arithmetic
import Promptline.Shell.Glob
import Promptline.Shell.Parser
import Promptline.Shell.State

namespace Promptline.Shell

/-- Which tildes stand for directories. -/
inductive Tildes where
  | none
  | first
  | everywhere
  deriving DecidableEq, Repr

/-- How a word is expanded. -/
structure Manner where
  /-- The word becomes fields. -/
  splits : Bool
  quoted : Bool
  /-- The word takes the place of a parameter, so that even its text is split. -/
  nested : Bool
  tildes : Tildes
  deriving DecidableEq, Repr

namespace Manner

def fields : Manner := ⟨true, false, false, .first⟩

/-- The word of an assignment. -/
def value : Manner := ⟨false, false, false, .everywhere⟩

/-- A word that stays one, such as the target of a redirection. -/
def single : Manner := ⟨false, false, false, .first⟩

def text : Manner := ⟨false, true, false, .none⟩

end Manner

/-- The parts of the shell that larger parts are put together from. -/
structure Evaluator where
  /-- In a condition a failure has no consequences. -/
  command : (tested : Bool) → Command → Run Unit
  word : Manner → Word → Run (List Segment)
  program : List Text → Work Nat

namespace Segment

def toText (segments : List Segment) : Text := Glyph.toText (segments.flatMap glyphs)

def toPattern (segments : List Segment) : Pattern :=
  Pattern.ofText (Glyph.toPattern (segments.flatMap glyphs))

/-- Text that is kept together in quotes, and split outside of them. -/
def ofText (quoted : Bool) (text : Text) : List Segment :=
  if quoted then [.fixed (Glyph.ofText true text)] else [.loose false (Glyph.ofText false text)]

end Segment

namespace Session

/-- The separators of fields. -/
def separators (session : Session) : Text :=
  (session.value? (Text.of "IFS")).getD [' ', '\t', '\n']

/-- The letters of settings in the order in which they are listed. -/
def settingLetters : List Char := "pubaCEVvxsnmiIfe".toList

/-- The value of a parameter that is not a list. -/
def parameter? (session : Session) (name : Text) : Option Text :=
  match name with
  | ['$'] => some (Text.ofNat session.shellProcess)
  | ['?'] => some (Text.ofNat session.status)
  | ['#'] => some (Text.ofNat session.arguments.length)
  | ['!'] => session.lastJob?.map Text.ofNat
  | ['-'] => some (settingLetters.filter session.isOn)
  | name =>
      if name ≠ [] ∧ name.all Char.isDigit then
        match Integer.natural 10 name with
        | 0 => some session.name
        | number + 1 => session.arguments[number]?
      else session.value? name

def isList (name : Text) : Bool := name = ['@'] || name = ['*']

/-- What stands between the arguments of a list. Arguments that are to be split are kept apart by a
zero character. -/
def listSeparator (session : Session) (splits : Bool) : Text :=
  match session.value? (Text.of "IFS"), splits with
  | none, _ => [' ']
  | some _, true => ['\x00']
  | some separators, false => separators.take 1

/-- The value of a parameter in a context where it is split or not. -/
def listedParameter? (session : Session) (name : Text) (splits : Bool) : Option Text :=
  if isList name then some (Text.join (session.listSeparator splits) session.arguments)
  else session.parameter? name

/-- The directory that a tilde and a user stand for. -/
def home? (session : Session) (user : Text) : Option Text :=
  if user = [] then session.value? (Text.of "HOME")
  else if user = Text.of "root" then some (Text.of "/root") else none

end Session

namespace Expansion

open Run

/-- A tilde at the start is replaced, up to the end of the name behind it. -/
def tildeHere (session : Session) (endsName : Char → Bool) (text : Text) :
    Option (Text × Text) :=
  match text with
  | '~' :: rest =>
      let user := rest.takeWhile fun c => !endsName c
      (session.home? user).map fun home => (home, rest.dropWhile fun c => !endsName c)
  | _ => none

/-- The segments of a text outside of quotes. -/
def plainText (session : Session) (manner : Manner) (isFirst isLast : Bool) (text : Text) :
    List Segment :=
  let written (text : Text) : List Segment :=
    if text = [] then []
    else if manner.nested then [.loose false (Glyph.ofText false text)]
    else [.fixed (Glyph.ofText false text)]
  let everywhere := manner.tildes = .everywhere
  let endsName (c : Char) : Bool := c = '/' || (everywhere && c = ':')
  let atStart (text : Text) (isLast : Bool) : List Segment :=
    match tildeHere session endsName text with
    | some (home, rest) =>
        if rest = [] ∧ !isLast then written text
        else .fixed (Glyph.ofText true home) :: written rest
    | none => written text
  let replaced (first isFirst isLast : Bool) (piece : Text) : List Segment :=
    if manner.tildes ≠ .none ∧ (isFirst ∨ !first) then atStart piece isLast else written piece
  if everywhere then
    let pieces := Text.pieces (· = ':') text
    (pieces.zipIdx.flatMap fun (piece, index) =>
      (if index = 0 then [] else written [':']) ++
        replaced (index = 0) isFirst (isLast || index + 1 < pieces.length) piece)
  else replaced true isFirst isLast text

/-- The setting that forbids parameters without a value. -/
def refusesUnset (session : Session) : Bool := session.isOn 'u'

def unset {A : Type} (name : Text) : Run A :=
  fail (name ++ Text.of ": parameter not set")

/-- The segments of a parameter by its name. -/
def parameterSegments (manner : Manner) (quoted : Bool) (name : Text) : Run (List Segment) := do
  let session ← session
  if name = ['@'] ∧ quoted ∧ manner.splits then
    if session.arguments = [] then return []
    let glyphs := session.arguments.map (Glyph.ofText true)
    return [.loose true (List.intercalate [.char '\x00' false] glyphs)]
  match session.listedParameter? name (manner.splits && !quoted) with
  | some value => return Segment.ofText quoted value
  | none =>
      if refusesUnset session then unset name
      return Segment.ofText quoted []

/-- How a fault of an expression is reported. -/
def arithmeticFault {A : Type} (text : Text) (fault : Arithmetic.Fault) : Run A :=
  let report (reason : String) : Run A :=
    fail (Text.of "arithmetic expression: " ++ Text.of reason ++ Text.of ": \"" ++ text ++ ['"'])
  match fault with
  | .expectedPrimary => report "expecting primary"
  | .expectedEnd => report "expecting EOF"
  | .expectedClose => report "expecting ')'"
  | .expectedColon => report "expecting ':'"
  | .divisionByZero => report "division by zero"
  | .illegalNumber number => illegalNumber number

/-- Variables in expressions are numbers in any base. One that is not set is zero. -/
def readNumber (name : Text) : Run Int := do
  let value := ((← session).value? name).getD []
  if value = [] then return 0
  match Integer.ofText? none value with
  | some number => return number
  | none => if value.all Integer.isBlank then return 0 else illegalNumber value

def calculate (text : Text) : Run Int := do
  match Arithmetic.parse text with
  | .error fault => arithmeticFault text fault
  | .ok expression =>
      Arithmetic.value
        { read := readNumber
          assign := fun name number => assign name (Integer.text number)
          fail := fun fault => arithmeticFault text fault } expression

/-- The lines of a script are run one after the other. The status is that of the last command, and
zero without any. -/
def runLines (inner : Evaluator) (tested : Bool) (status : Nat) : Nat → Text → Run Nat
  | 0, _ => return status
  | fuel + 1, script => do
      match nextLine? (← session).aliases script with
      | .error fault => fail fault.message
      | .ok none => return status
      | .ok (some (none, rest)) => runLines inner tested status fuel rest
      | .ok (some (some command, rest)) => do
          inner.command tested command
          runLines inner tested (← session).status fuel rest

def runScript (inner : Evaluator) (tested : Bool) (script : Text) : Run Nat :=
  runLines inner tested 0 (script.length + 1) script

/-- The status with which a shell ends that is left in a way. -/
def endStatus (result : Except Leave Nat) (status : Nat) : Nat :=
  match result with
  | .ok status => status
  | .error (.break_ _) | .error (.continue_ _) => status
  | .error (.fault status) | .error (.exit status) | .error (.return_ status) => status
  | .error (.stop (.ended ending)) => ending.status
  | .error (.stop _) => status

/-- What is left to do when a shell ends. -/
def runEndTrap (inner : Evaluator) (status : Nat) : Run Nat := do
  match (← session).traps.lookup 0 with
  | none => return status
  | some action =>
      update fun session => { session with traps := [], status }
      match ← attempt (runScript inner false action) with
      | .error (.exit status) => return status
      | .error (.stop stop) => throw (.stop stop)
      | _ => return status

/-- The body is run by a shell of its own, which inherits everything but the traps. -/
def subshell (inner : Evaluator) (body : Run Nat) : Run Nat := do
  work Work.fork
  let before ← session
  let machine ← machine
  let process := machine.nextProcess
  setMachine { machine with nextProcess := process + 1 }
  update fun session => { session with
    process, loops := 0, jobs := [],
    traps := session.traps.filter fun (_, action) => action = [] }
  let result ← attempt body
  let finished : Run Nat := do
    let status := endStatus result (← session).status
    runEndTrap inner status
  let restore : Run Unit := update fun _ => before
  match result with
  | .error (.stop .never) => throw (.stop .never)
  | .error (.stop (.killed target signal)) =>
      restore
      if target = process then return 128 + signal
      if target = before.process ∧ ((before.traps.lookup signal).getD []) ≠ [] then
        update fun session => { session with pending := session.pending ++ [signal] }
        return 128 + signal
      throw (.stop (.killed target signal))
  | .error (.stop (.ended ending)) =>
      restore
      return ending.status
  | _ =>
      let status ← attempt finished
      restore
      match status with
      | .ok status => return status
      | .error leave => throw leave

/-- The descriptor leads to the opening. -/
def redirect (descriptor opening : Nat) : Run Unit :=
  update fun session => { session with
    descriptors := (descriptor, opening) :: session.descriptors.filter (·.1 ≠ descriptor) }

/-- The output of a script, without zeros and the line ends behind it. -/
def outputOf (inner : Evaluator) (script : Text) : Run Text := do
  let (machine, channel, _, writer) := (← machine).addPipe
  setMachine machine
  let status ← subshell inner do
    redirect 1 writer
    runScript inner false script
  update fun session => { session with wordStatus := status }
  let output := ((← Run.machine).transcript channel).filter (· ≠ '\x00')
  return (output.reverse.dropWhile (· = '\n')).reverse

/-- The segments of a part that is no text. -/
def expandPart (inner : Evaluator) (manner : Manner) (part : Part) : Run (List Segment) := do
  match part with
  | .text quoted text => return [.fixed (Glyph.ofText quoted text)]
  | .quote => return [.fixed [.quote]]
  | .value quoted name => parameterSegments manner (quoted || manner.quoted) name
  | .length quoted name =>
      let quoted := quoted || manner.quoted
      let session ← session
      match session.listedParameter? name (manner.splits && !quoted) with
      | some value => return Segment.ofText quoted (Text.ofNat value.length)
      | none =>
          if refusesUnset session then unset name
          return Segment.ofText quoted ['0']
  | .fallback quoted name kind emptyToo word => do
      let quoted := quoted || manner.quoted
      let value? := (← session).listedParameter? name (manner.splits && !quoted)
      let missing := value? = none ∨ (emptyToo ∧ value? = some [])
      let inside : Manner :=
        { manner with quoted, nested := !quoted, tildes := if quoted then .none else .first }
      match kind with
      | .use =>
          if missing then inner.word inside word else parameterSegments manner quoted name
      | .replace => if missing then return Segment.ofText quoted [] else inner.word inside word
      | .assign =>
          if missing then
            let text := Segment.toText (← inner.word { inside with splits := false } word)
            if !Word.isName name then fail (name ++ Text.of ": bad variable name")
            assign name text
          parameterSegments manner quoted name
      | .complain =>
          if missing then
            let text := Segment.toText (← inner.word { inside with splits := false } word)
            let default := Text.of "parameter not set" ++
              (if emptyToo then Text.of " or null" else [])
            fail (name ++ Text.of ": " ++ (if word.isEmpty then default else text))
          parameterSegments manner quoted name
  | .trim quoted name atEnd longest pattern => do
      let quoted := quoted || manner.quoted
      let session ← session
      match session.listedParameter? name (manner.splits && !quoted) with
      | none =>
          if refusesUnset session then unset name
          return Segment.ofText quoted []
      | some value =>
          let pattern := Segment.toPattern (← inner.word Manner.single pattern)
          return Segment.ofText quoted
            (if atEnd then pattern.cutEnd longest value else pattern.cutStart longest value)
  | .invalid => fail (Text.of "Bad substitution")
  | .output quoted script =>
      return Segment.ofText (quoted || manner.quoted) (← outputOf inner script)
  | .number quoted expression =>
      let text := Segment.toText (← inner.word Manner.text expression)
      return Segment.ofText (quoted || manner.quoted) (Integer.text (← calculate text))

/-- The segments of a word. Quotes that hold nothing but all arguments leave nothing behind. -/
def expandParts (inner : Evaluator) (manner : Manner) (isFirst : Bool) :
    Word → Run (List Segment)
  | [] => return []
  | .quote :: .value true ['@'] :: .quote :: rest => do
      let segments ← expandPart inner manner (.value true ['@'])
      return segments ++ (← expandParts inner manner false rest)
  | .text false text :: rest => do
      let session ← session
      let segments :=
        if manner.quoted then [.fixed (Glyph.ofText false text)]
        else plainText session manner isFirst rest.isEmpty text
      return segments ++ (← expandParts inner manner false rest)
  | part :: rest => do
      let segments ← expandPart inner manner part
      return segments ++ (← expandParts inner manner false rest)

def expandWord (inner : Evaluator) (manner : Manner) (word : Word) : Run (List Segment) :=
  expandParts inner manner true word

/-- The text of a word that stays one. -/
def textOf (inner : Evaluator) (manner : Manner) (word : Word) : Run Text := do
  return Segment.toText (← inner.word manner word)

/-- The fields of a word. -/
def fieldsOf (inner : Evaluator) (word : Word) : Run (List Text) := do
  let segments ← inner.word Manner.fields word
  let session ← session
  let fields := Segment.fields session.separators segments
  if session.isOn 'f' then return fields.map Glyph.toText
  let tree := (← machine).files
  return fields.flatMap (Glob.expand tree session.directory)

end Expansion

end Promptline.Shell
