/-
This file runs the programs of one machine by their names: the shell, the programs that start
others, and all the rest.
-/

import Promptline.Program.Lookup
import Promptline.Program.Standing
import Promptline.Program.Tool
import Promptline.Shell.Evaluation

namespace Promptline.Launch

open Shell

/-! The shell -/

/-- What the arguments of the shell ask for. -/
structure ShellRequest where
  settings : List Char
  takesScript : Bool
  takesInput : Bool
  operands : List Text

/-- The options of the shell stand in front of its other arguments. -/
def shellRequest (request : ShellRequest) : List Text → Option ShellRequest
  | [] => some request
  | word :: rest =>
      match word with
      | ['-'] | ['-', '-'] => some { request with operands := rest }
      | '-' :: letters => group true letters request rest
      | '+' :: letters => group false letters request rest
      | word => some { request with operands := word :: rest }
where
  group (on : Bool) : Text → ShellRequest → List Text → Option ShellRequest
    | [], request, rest => shellRequest request rest
    | 'c' :: letters, request, rest =>
        group on letters { request with takesScript := true } rest
    | 'l' :: letters, request, rest => group on letters request rest
    | 'o' :: letters, request, name :: rest =>
        match Builtin.settingNames.find? fun (_, other) => Text.of other = name with
        | some (letter, _) => group on letters (put on letter request) rest
        | none => none
    | letter :: letters, request, rest =>
        if (Builtin.settingNames.lookup letter).isSome then
          group on letters (put on letter request) rest
        else none
  put (on : Bool) (letter : Char) (request : ShellRequest) : ShellRequest :=
    let others := request.settings.filter (· ≠ letter)
    { request with
      settings := if on then letter :: others else others
      takesInput := request.takesInput || (on && letter = 's') }

/-- The variables of a new shell. -/
def shellVariables (process : Process) : List (Text × Variable) :=
  let inherited := process.environment.filter fun (name, _) =>
    Word.isName name && name ≠ Text.of "IFS"
  let own (name value : String) : Text × Variable :=
    (Text.of name, ⟨some (Text.of value), false, false⟩)
  let path := if (inherited.lookup (Text.of "PATH")).isSome then [] else
    [(Text.of "PATH", (⟨some Standing.searchPath, false, false⟩ : Variable))]
  [own "IFS" " \t\n", own "OPTIND" "1", own "PS1" "# ", own "PS2" "> ", own "PS4" "+ ",
    (Text.of "PPID", ⟨some (Text.ofNat process.parent), false, false⟩),
    (Text.of "PWD", ⟨some (Place.path process.directory), false, false⟩)] ++ path ++
    (inherited.filter fun (name, _) => name ≠ Text.of "PWD" && name ≠ Text.of "OPTIND").map
      fun (name, value) => (name, ⟨some value, true, false⟩)

def newSession (process : Process) (name : Text) (arguments : List Text) (settings : List Char) :
    Session where
  shellProcess := process.identity
  process := process.identity
  parent := process.parent
  name
  arguments
  bindings := shellVariables process
  functions := []
  settings
  status := 0
  wordStatus := 0
  descriptors := process.descriptors
  directory := process.directory
  path := Place.path process.directory
  mask := 18
  traps := []
  pending := []
  locals := []
  loops := 0
  functionDepth := 0
  jobs := []
  lastJob? := none
  optionOffset := 0
  builtin? := none
  aliases := []

/-- A script is run to its end. -/
def runShell (inner : Evaluator) (session : Session) (script : Text) : Work Nat := do
  let machine ← getThe Machine
  let body : Run Nat := do
    match ← Run.attempt (Expansion.runScript inner false script) with
    | .error (.stop stop) => throw (.stop stop)
    | result => Expansion.runEndTrap inner (Expansion.endStatus result (← Run.session).status)
  let (result, world) := body.run ⟨session, machine⟩
  set world.machine
  match result with
  | .ok status => return status % 256
  | .error (.stop (.killed target signal)) =>
      if target = session.process then throw (.ended (.signal signal))
      throw (.killed target signal)
  | .error (.stop stop) => throw stop
  | .error _ => return 2

def shellComplaint (name reason : Text) : Work Nat := do
  Work.complain (name ++ Text.of ": 0: " ++ reason)
  return 2

/-- The code of a shell without its script. The larger shells tell apart what is missing and what
cannot be run. -/
def missingScriptCode (name : Text) (fault : PathFault) : Nat :=
  if (Text.of "bash").isSuffixOf name then (if fault = .isDirectory then 126 else 127) else 2

def shell (inner : Evaluator) (name : Text) (arguments : List Text) : Work Nat := do
  match shellRequest ⟨[], false, false, []⟩ arguments with
  | none => shellComplaint name (Text.of "Illegal option")
  | some request =>
      let process ← read
      if request.takesScript then
        match request.operands with
        | [] => shellComplaint name (Text.of "-c requires an argument")
        | script :: rest =>
            runShell inner
              (newSession process (rest.headD name) (rest.drop 1) request.settings) script
      else match request.takesInput, request.operands with
        | false, file :: rest =>
            match (← getThe Machine).files.read process.directory file with
            | .ok script =>
                runShell inner (newSession process file rest request.settings) script
            | .error fault => do
                discard (shellComplaint name
                  (Text.of "cannot open " ++ file ++ Text.of ": No such file"))
                return missingScriptCode name fault
        | _, operands => do
            let script := (← Work.input?).getD []
            runShell inner (newSession process name operands request.settings) script

/-! The programs that start others -/

/-- What a program says about one that it cannot start. -/
def startComplaint (program : String) (name : Text) : Text :=
  match program with
  | "env" | "nice" => Tool.quoted name
  | "timeout" | "stdbuf" => Text.of "failed to run command " ++ Tool.quoted name
  | "nohup" => Text.of "failed to run command " ++ Tool.quotedPath name
  | "setsid" | "flock" => Text.of "failed to execute " ++ name
  | _ => name

/-- A program is started by another one, which ends with a code of its own if there is none. -/
def start (inner : Evaluator) (program : String) (arguments : List Text) : Work Nat := do
  match arguments with
  | [] => return 0
  | name :: _ =>
      let process ← read
      let searchPath := (process.environment.lookup (Text.of "PATH")).getD Standing.searchPath
      match Lookup.find (← getThe Machine).files process.directory searchPath name with
      | .ok _ => inner.program arguments
      | .error fault =>
          Tool.fail program
            (startComplaint program name ++ Text.of ": " ++ fault.description)
            (if fault = .absent ∨ fault = .notDirectory then 127 else 126)

/-- The environment with a variable set or removed. -/
def withVariable (name : Text) (value? : Option Text) (environment : List (Text × Text)) :
    List (Text × Text) :=
  let others := environment.filter fun other => other.1 ≠ name
  match value? with
  | some value => others ++ [(name, value)]
  | none => others

/-- Variables are set and removed before a program is started, or listed. -/
def env (inner : Evaluator) (environment : List (Text × Text)) : List Text → Work Nat
  | [] => Work.put (environment.flatMap fun (name, value) => name ++ '=' :: value ++ ['\n'])
  | word :: rest =>
      match String.ofList word, rest with
      | "-i", rest | "-", rest | "--ignore-environment", rest => env inner [] rest
      | "--", rest => env inner environment rest
      | "-u", name :: rest => env inner (withVariable name none environment) rest
      | _, rest =>
          match Text.splitAt? '=' word with
          | some (name, value) => env inner (withVariable name (some value) environment) rest
          | none =>
              if word.head? = some '-' then return 125
              else fun process =>
                (start inner "env" (word :: rest)).run { process with environment }

/-- The program is stopped when a time is over. -/
def withLimit (limit : Nat) (code : Nat) (body : Work Nat) : Work Nat := fun process machine =>
  let (result, after) := (body.run process).run machine
  let finish := machine.clock + limit
  let late : Bool := match result with
    | .error .never => true
    | _ => limit ≠ 0 && finish ≤ after.clock
  if late ∧ limit ≠ 0 then (.ok code, { after with clock := finish })
  else match result with
    | .error (.ended ending) => (.ok ending.status, after)
    | result => (result, after)

def timeout (inner : Evaluator) (code : Nat) : List Text → Work Nat
  | [] => return 125
  | [_] => return 125
  | word :: value :: rest =>
      match String.ofList word with
      | "-s" | "-k" =>
          timeout inner (if value = Text.of "KILL" ∨ value = Text.of "9" then 137 else code) rest
      | "--preserve-status" => timeout inner 143 (value :: rest)
      | "--foreground" | "--" => timeout inner code (value :: rest)
      | _ =>
          match Tool.microseconds? word with
          | some limit? => withLimit (limit?.getD 0) code (start inner "timeout" (value :: rest))
          | none => return 125

/-- The options that may stand in front of a program to start, and the code for any others. -/
structure StartOptions where
  plain : List Char
  valued : List Char
  refusal : Nat

/-- What stands behind the options, unless one of them is not known. -/
def StartOptions.command? (options : StartOptions) : List Text → Option (List Text)
  | [] => some []
  | word :: rest =>
      match word, rest with
      | ['-', '-'], rest => some rest
      | '-' :: '-' :: _, rest => options.command? rest
      | ['-', letter], rest =>
          if options.plain.contains letter ∨ letter.isDigit then options.command? rest
          else if options.valued.contains letter then
            match rest with
            | _ :: rest => options.command? rest
            | [] => none
          else none
      | '-' :: letter :: _, rest =>
          if options.plain.contains letter ∨ options.valued.contains letter ∨ letter.isDigit then
            options.command? rest
          else none
      | _, _ => some (word :: rest)

/-- A program is started after some options. A code belongs to the case that there is none. -/
def startBehind (inner : Evaluator) (program : String) (options : StartOptions) (code : Nat)
    (arguments : List Text) : Work Nat :=
  match options.command? arguments with
  | none => return options.refusal
  | some [] => return code
  | some command => start inner program command

/-- A program that leads its group is not waited for when it gets a session of its own. -/
def setsid (inner : Evaluator) (arguments : List Text) : Work Nat := do
  let options : StartOptions := ⟨['c', 'f', 'w'], [], 1⟩
  let code ← startBehind inner "setsid" options 1 arguments
  let hasCommand := (options.command? arguments).any (· ≠ [])
  return if hasCommand ∧ (← read).identity = Standing.firstProcess then 0 else code

/-- A program is started while a file is locked. -/
def flock (inner : Evaluator) : List Text → Work Nat
  | path :: command :: rest => do
      if path.head? = some '-' then return 64
      match (← getThe Machine).files.place (← read).directory path with
      | .error _ => return 66
      | .ok place => do
          if ((← getThe Machine).files.node? place).isNone then
            Work.changeFiles fun files => files.put place (.file [])
          let code ← start inner "flock" (command :: rest)
          return if code = 126 ∨ code = 127 then 69 else code
  | _ => return 64

/-- The words of an input, where quotes and backslashes keep characters together. -/
def inputWords (open_? : Option Text) (quote? : Option Char) : Text → List Text
  | [] => open_?.toList
  | c :: rest =>
      let add (c : Char) (quote? : Option Char) : List Text :=
        inputWords (some (open_?.getD [] ++ [c])) quote? rest
      match quote? with
      | some '\\' => add c none
      | some quote =>
          if c = quote then inputWords (some (open_?.getD [])) none rest else add c quote?
      | none =>
          if c = '\'' ∨ c = '"' ∨ c = '\\' then inputWords (some (open_?.getD [])) (some c) rest
          else if c = ' ' ∨ c = '\t' ∨ c = '\n' then open_?.toList ++ inputWords none none rest
          else add c none

/-- The lists of at most so many members. -/
def chunks (size : Nat) : Nat → List Text → List (List Text)
  | 0, _ => []
  | _ + 1, [] => []
  | fuel + 1, members => members.take size :: chunks size fuel (members.drop size)

structure XargsRequest where
  size? : Option Nat
  replaced? : Option Text
  skipsEmpty : Bool
  zeros : Bool
  command : List Text

def xargsRequest (request : XargsRequest) : List Text → XargsRequest
  | [] => request
  | word :: rest =>
      match String.ofList word, rest with
      | "-n", value :: rest | "-L", value :: rest =>
          xargsRequest { request with size? := some (Integer.natural 10 value) } rest
      | "-I", value :: rest => xargsRequest { request with replaced? := some value } rest
      | "-r", rest => xargsRequest { request with skipsEmpty := true } rest
      | "-0", rest => xargsRequest { request with zeros := true } rest
      | "-t", rest => xargsRequest request rest
      | "-P", _ :: rest | "-d", _ :: rest => xargsRequest request rest
      | _, rest =>
          match word with
          | '-' :: 'n' :: digits =>
              xargsRequest { request with size? := some (Integer.natural 10 digits) } rest
          | _ => { request with command := word :: rest }

/-- All places where a word stands get another text. -/
def replaceAll (word replacement : Text) : Nat → Text → Text
  | 0, text => text
  | _ + 1, [] => []
  | fuel + 1, c :: rest =>
      if word ≠ [] ∧ word.isPrefixOf (c :: rest) then
        replacement ++ replaceAll word replacement fuel ((c :: rest).drop word.length)
      else c :: replaceAll word replacement fuel rest

/-- The words of the input become arguments of a program. -/
def xargs (inner : Evaluator) (arguments : List Text) : Work Nat := do
  let request := xargsRequest ⟨none, none, false, false, []⟩ arguments
  let input := (← Work.input?).getD []
  let command := if request.command = [] then [Text.of "echo"] else request.command
  let commands ← match request.replaced? with
    | some replaced => do
        let lines := ((Text.pieces (· = '\n') input).map fun line =>
          line.dropWhile fun c => c = ' ' || c = '\t').filter (· ≠ [])
        pure (lines.map fun line => command.map fun word =>
          replaceAll replaced line (word.length + 1) word)
    | none => do
        let words :=
          if request.zeros then (Text.pieces (· = '\x00') input).filter (· ≠ [])
          else inputWords none none input
        let groups := match request.size? with
          | some size => chunks (max 1 size) words.length words
          | none => [words]
        let groups := if words = [] ∧ !request.skipsEmpty then [[]] else
          groups.filter (· ≠ [])
        pure (groups.map fun group => command ++ group)
  let codes ← commands.mapM fun command => start inner "xargs" command
  if codes.any fun code => code = 126 ∨ code = 127 then return codes.foldl max 0
  return if codes.any fun code => code ≠ 0 then 123 else 0

/-- The paths of programs. -/
def which (arguments : List Text) : Work Nat := do
  let names := arguments.filter fun word => word ≠ Text.of "-a" && word ≠ Text.of "-s"
  if names.any fun word => word.head? = some '-' then return 2
  let process ← read
  let searchPath := (process.environment.lookup (Text.of "PATH")).getD []
  let files := (← getThe Machine).files
  let found := names.map fun name => Lookup.find files process.directory searchPath name
  discard (Work.put (found.flatMap fun
    | .ok (path, _) => path ++ ['\n']
    | .error _ => []))
  return if names ≠ [] ∧ found.all fun result => result.toOption.isSome then 0 else 1

/-! All programs -/

/-- The name of a program without the path to it. -/
def baseName (path : Text) : Text := ((Text.pieces (· = '/') path).getLast?).getD []

/-- A program that is there is run. -/
def program (inner : Evaluator) (words : List Text) : Work Nat := do
  Work.fork
  match words with
  | [] => return 0
  | path :: arguments =>
      match String.ofList (baseName path) with
      | "sh" | "dash" | "bash" | "rbash" => shell inner path arguments
      | "env" => do env inner (← read).environment arguments
      | "timeout" => timeout inner 124 arguments
      | "nice" => startBehind inner "nice" ⟨[], ['n'], 125⟩ 0 arguments
      | "nohup" => startBehind inner "nohup" ⟨[], [], 125⟩ 125 arguments
      | "setsid" => setsid inner arguments
      | "flock" => flock inner arguments
      | "stdbuf" =>
          if (arguments.head?.bind List.head?) = some '-' then
            startBehind inner "stdbuf" ⟨[], ['o', 'i', 'e'], 125⟩ 125 arguments
          else return 125
      | "xargs" => xargs inner arguments
      | "which" => which arguments
      | _ => Tool.find (baseName path) arguments

/-- Nothing can be run at the lowest depth. -/
def exhausted : Evaluator where
  command _ _ := throw (.stop (.ended (.signal Signal.segmentation)))
  word _ _ := throw (.stop (.ended (.signal Signal.segmentation)))
  program _ := throw (.ended (.signal Signal.segmentation))

/-- The evaluator of a depth. -/
def evaluator : Nat → Evaluator
  | 0 => exhausted
  | depth + 1 =>
      let inner := evaluator depth
      { command := Evaluation.runCommand inner
        word := Expansion.expandWord inner
        program := program inner }

/-- Commands are nested at most so deeply. -/
def depth : Nat := 12000

/-- The outcome of a program with its arguments and variables, which has no input. There is none if
the program never ends. -/
def run (arguments : List Text) (environment : List (Text × Text)) : Option Outcome :=
  let (machine, channel) := Standing.machine.addChannel
  let (machine, output) := machine.addOpening ⟨.channel channel, false, true, true, 0⟩
  let (machine, nothing) := machine.addOpening ⟨.device (Text.of "null"), true, true, false, 0⟩
  let process : Process := {
    identity := machine.nextProcess
    parent := 1
    environment
    directory := Standing.workingDirectory
    descriptors := [(0, nothing), (1, output), (2, nothing)] }
  let machine := { machine with nextProcess := machine.nextProcess + 1 }
  let (result, machine) := (((evaluator depth).program arguments).run process).run machine
  let finish := ((machine.channels[channel]?).map Channel.finish).getD 0
  let outcome (ending : Ending) : Option Outcome :=
    if endOfTime ≤ finish then none
    else some ⟨(machine.transcript channel).bytes, ending, max machine.clock finish⟩
  match result with
  | .ok code => outcome (.exit code)
  | .error (.ended ending) => outcome ending
  | .error (.killed _ signal) => outcome (.signal signal)
  | .error .never => none

/-- A program gets its own variables with those of every program, in the order of their names. -/
def environment (given : List (Text × Text)) : List (Text × Text) :=
  let own := given.map fun (name, value) => (name, value.bytewise)
  (Standing.environment ++ own).mergeSort fun first second => Text.le first.1 second.1

/-- The programs of the machine, which are looked for by their names. -/
def programs : Programs := fun call =>
  let name := call.name.bytewise
  match Lookup.find Standing.tree Standing.workingDirectory Standing.searchPath name with
  | .ok _ => .ok (run (name :: call.arguments.map Text.bytewise) (environment call.environment))
  | .error fault =>
      .error (fault.description ++ Text.of " (os error " ++ Text.ofNat fault.number ++ [')'])

end Promptline.Launch
