/-
This file runs commands. Whatever runs other commands gets a smaller evaluator for them, so that the
depth of evaluation is bounded.
-/

import Promptline.Program.Standing
import Promptline.Shell.Builtin.Control
import Promptline.Shell.Builtin.Names
import Promptline.Shell.Builtin.Output
import Promptline.Shell.Builtin.Variables
import Promptline.Shell.Redirection

namespace Promptline.Shell.Evaluation

open Run

/-- A failure ends the shell if the settings say so. -/
def checkFailure (tested : Bool) : Run Unit := do
  let session ← session
  if session.isOn 'e' ∧ !tested ∧ session.status ≠ 0 then throw (.exit session.status)

/-- What signals have asked for is run now. -/
def runPending (inner : Evaluator) : Run Unit := do
  let session ← session
  if session.pending ≠ [] then do
    update fun session => { session with pending := [] }
    for signal in session.pending do
      match session.traps.lookup signal with
      | some action => do
          let status := (← Run.session).status
          discard (Expansion.runScript inner false action)
          setStatus status
      | none => pure ()

/-- The builtins whose arguments may be assignments. -/
def takesAssignments (name : Text) : Bool :=
  ["export", "readonly", "local", "alias"].contains (String.ofList name)

/-- The fields of the words of a command. -/
def fieldsOfWords (inner : Evaluator) (soFar : List Text) : List Word → Run (List Text)
  | [] => return soFar
  | word :: rest => do
      let declares := match soFar with
        | name :: more =>
            takesAssignments name ||
              (name = Text.of "command" && (more.head?.map takesAssignments).getD false)
        | [] => false
      match if declares then word.assignment? else none with
      | some (name, value) => do
          let value ← Expansion.textOf inner Manner.value value
          fieldsOfWords inner (soFar ++ [name ++ '=' :: value]) rest
      | none => do
          let fields ← Expansion.fieldsOf inner word
          fieldsOfWords inner (soFar ++ fields) rest

/-- The assignments in front of a command, one after the other. -/
def assignAll (inner : Evaluator) (exported : Bool) : List (Text × Word) → Run Unit
  | [] => return
  | (name, word) :: rest => do
      let value ← Expansion.textOf inner Manner.value word
      assign name value
      if exported then
        update fun session => session.set name
          { (session.bindings.lookup name).getD ⟨some value, true, false⟩ with exported := true }
      assignAll inner exported rest

/-- The variables get back what they were. -/
def restoreVariables (saved : List (Text × Option Variable)) : Run Unit :=
  update fun session => saved.foldl (fun session (name, variable?_) =>
    match variable?_ with
    | some variable_ => session.set name variable_
    | none => session.remove name) session

/-- The body is run with assignments that last as long as it does. -/
def withAssignments {A : Type} (inner : Evaluator) (assignments : List (Text × Word))
    (body : Run A) : Run A := do
  let saved := assignments.map fun (name, _) => name
  let before := (← session).bindings
  let restore : Run Unit :=
    restoreVariables (saved.map fun name => (name, before.lookup name))
  let result ← attempt do
    assignAll inner true assignments
    body
  restore
  match result with
  | .ok value => return value
  | .error leave => throw leave

/-- A program is run as a process of its own. -/
def runProgram (inner : Evaluator) (arguments : List Text) : Run Nat := do
  let world ← getThe World
  let session := world.session
  let identity := world.machine.nextProcess
  let process : Process :=
    { session.process_ with identity, parent := session.process }
  let (result, machine) :=
    ((inner.program arguments).run process).run
      { world.machine with nextProcess := identity + 1 }
  setMachine machine
  match result with
  | .ok status => return status
  | .error (.ended ending) => return ending.status
  | .error (.killed target signal) =>
      if target = identity then return 128 + signal
      if target = session.process ∧ ((session.traps.lookup signal).getD []) ≠ [] then
        update fun session => { session with pending := session.pending ++ [signal] }
        return 0
      throw (.stop (.killed target signal))
  | .error .never => throw (.stop .never)

/-- The status of a name that is no program. -/
def missingProgram (name : Text) (fault : PathFault) : Run Nat := do
  let reason :=
    match fault with
    | .absent | .notDirectory =>
        if name = [] then PathFault.denied.description else Text.of "not found"
    | fault => fault.description
  complain (name ++ Text.of ": " ++ reason)
  return if fault = .denied ∧ Lookup.isPath name then 126 else 127

/-- The program of a name is run if it can be found. -/
def runNamed (inner : Evaluator) (name : Text) (arguments : List Text) : Run Nat := do
  let session ← session
  let searchPath := (session.value? (Text.of "PATH")).getD []
  match Lookup.find (← machine).files session.directory searchPath name with
  | .ok _ => runProgram inner (name :: arguments)
  | .error fault => missingProgram name fault

/-- The shell is replaced by a program. -/
def exec (inner : Evaluator) (arguments : List Text) : Run Nat := do
  match arguments with
  | [] => return 0
  | name :: rest => do
      let status ← runNamed inner name rest
      update fun session => { session with traps := [] }
      throw (.exit status)

/-- The arguments are a script. -/
def eval (inner : Evaluator) (tested : Bool) (arguments : List Text) : Run Nat :=
  Expansion.runScript inner tested (Text.join [' '] arguments)

/-- A script from a file is run by this shell. -/
def source (inner : Evaluator) (tested : Bool) (arguments : List Text) : Run Nat := do
  match ← Builtin.operands arguments with
  | [] => return 2
  | name :: _ => do
      let session ← session
      match (← machine).files.read session.directory name with
      | .error _ => fail (Text.of "cannot open " ++ name ++ Text.of ": No such file")
      | .ok script =>
          if !Lookup.isPath name then fail (name ++ Text.of ": not found")
          match ← attempt (Expansion.runScript inner tested script) with
          | .ok status => return status
          | .error (.return_ status) => return status
          | .error leave => throw leave

/-- The builtin of a name that does not run other commands. -/
def plainBuiltin? (name : Text) : Option Builtin :=
  match String.ofList name with
  | ":" | "true" => some fun _ => return 0
  | "false" => some fun _ => return 1
  | "echo" => some Builtin.echo
  | "printf" => some Builtin.printf
  | "test" => some Builtin.test
  | "[" => some Builtin.bracket
  | "export" => some Builtin.export_
  | "readonly" => some Builtin.readonly_
  | "unset" => some Builtin.unset
  | "local" => some Builtin.local_
  | "set" => some Builtin.set
  | "shift" => some Builtin.shift
  | "read" => some Builtin.read
  | "getopts" => some Builtin.getopts
  | "exit" => some Builtin.exit
  | "return" => some Builtin.return_
  | "break" => some Builtin.break_
  | "continue" => some Builtin.continue_
  | "trap" => some Builtin.trap
  | "kill" => some Builtin.kill
  | "wait" => some Builtin.wait
  | "umask" => some Builtin.umask
  | "ulimit" => some Builtin.ulimit
  | "times" => some Builtin.times
  | "jobs" => some fun _ => return 0
  | "bg" | "fg" => some Builtin.jobControl
  | "type" => some Builtin.type
  | "hash" => some Builtin.hash
  | "alias" => some Builtin.setAlias
  | "unalias" => some Builtin.unalias
  | "cd" | "chdir" => some Builtin.cd
  | "pwd" => some Builtin.pwd
  | _ => none

/-- The builtin of a name. -/
def builtin? (inner : Evaluator) (tested : Bool) (name : Text) : Option Builtin :=
  match String.ofList name with
  | "eval" => some (eval inner tested)
  | "exec" => some (exec inner)
  | "." => some (source inner tested)
  | _ => plainBuiltin? name

/-- A builtin is run, and its messages name it. -/
def runBuiltin (name : Text) (builtin : Builtin) (arguments : List Text) : Run Nat := do
  let before := (← session).builtin?
  update fun session => { session with builtin? := some name }
  let result ← attempt (builtin arguments)
  update fun session => { session with builtin? := before }
  match result with
  | .ok status => return status
  | .error leave => throw leave

/-- A fault of the body only gives it a status. -/
def tolerantly (body : Run Nat) : Run Nat := do
  match ← attempt body with
  | .ok status | .error (.fault status) => return status
  | .error leave => throw leave

/-- No more functions than these are open at a time. -/
def deepest : Nat := 1000

/-- The body of a function is run with its own arguments. -/
def runFunction (inner : Evaluator) (tested : Bool) (body : Command) (arguments : List Text) :
    Run Nat := do
  let before ← session
  if deepest ≤ before.functionDepth then
    fail (Text.of "Maximum function recursion depth (" ++ Text.ofNat deepest ++ Text.of ") reached")
  update fun session => { session with
    arguments, loops := 0, optionOffset := 0, locals := [] :: session.locals
    functionDepth := session.functionDepth + 1 }
  let result ← attempt (inner.command tested body)
  restoreVariables ((← session).locals.headD [])
  update fun session => { session with
    arguments := before.arguments, loops := before.loops, optionOffset := before.optionOffset
    locals := before.locals, functionDepth := before.functionDepth }
  match result with
  | .ok _ => return (← session).status
  | .error (.return_ status) => return status
  | .error leave => throw leave

/-- What runs a command by its name and arguments, without functions if they are passed over. -/
inductive Runner where
  | special (run : Run Nat)
  | ordinary (run : Run Nat)

/-- What a command that describes names or runs one without functions asks for. -/
structure CommandRequest where
  describes? : Option Bool
  words : List Text

def commandRequest (arguments : List Text) : Run CommandRequest := do
  let (found, words) ← Builtin.options ⟨['p', 'v', 'V'], []⟩ arguments
  let letters := (found.map Prod.fst).filter (· ≠ 'p')
  return ⟨letters.getLast?.map (· = 'V'), words⟩

/-- The runner of a builtin or a program, whose faults have no consequences. -/
def runWithoutFunctions (inner : Evaluator) (tested : Bool) : List Text → Run Nat
  | [] => return 0
  | name :: arguments =>
      match builtin? inner tested name with
      | some builtin => tolerantly (runBuiltin name builtin arguments)
      | none =>
          if name = Text.of "command" then do
            let request ← tolerantlyRequest arguments
            match request with
            | none => return 2
            | some request => describeOr request
          else runNamed inner name arguments
where
  tolerantlyRequest (arguments : List Text) : Run (Option CommandRequest) := do
    match ← attempt (commandRequest arguments) with
    | .ok request => return some request
    | .error (.fault _) => return none
    | .error leave => throw leave
  describeOr (request : CommandRequest) : Run Nat := do
    match request.describes?, request.words with
    | _, [] => return 0
    | some long, name :: _ => Builtin.describeName long name
    | none, name :: arguments =>
        match builtin? inner tested name with
        | some builtin => tolerantly (runBuiltin name builtin arguments)
        | none => runNamed inner name arguments

/-- How a command is run. -/
def runner (inner : Evaluator) (tested : Bool) (session : Session) (name : Text)
    (arguments : List Text) : Runner :=
  let isSpecial := Grammar.specialBuiltins.contains (String.ofList name)
  match if isSpecial then none else session.functions.lookup name, builtin? inner tested name with
  | some body, _ => .ordinary (runFunction inner tested body arguments)
  | none, some builtin =>
      if isSpecial then .special (runBuiltin name builtin arguments)
      else .ordinary (tolerantly (runBuiltin name builtin arguments))
  | none, none => .ordinary (runWithoutFunctions inner tested (name :: arguments))

/-- The command is shown before it is run. -/
def showCommand (assignments : List (Text × Word)) (fields : List Text) : Run Unit := do
  let session ← session
  if session.isOn 'x' then
    let mark := (session.value? (Text.of "PS4")).getD []
    let words := assignments.map fun (name, word) =>
      name ++ '=' :: (word.filterMap fun
        | .text _ text => some text
        | _ => none).flatten
    discard (work (Work.write? 2 (mark ++ Text.join [' '] (words ++ fields) ++ ['\n'])))

/-- A command of words, with assignments and redirections. -/
def simple (inner : Evaluator) (tested : Bool) (assignments : List (Text × Word))
    (words : List Word) (redirections : List Redirection) : Run Nat := do
  update fun session => { session with wordStatus := 0 }
  let fields ← fieldsOfWords inner [] words
  showCommand assignments fields
  let failed (special : Bool) : Option Nat → Run Nat := fun
    | some status => return status
    | none => if special then throw (.fault 2) else return 2
  match fields with
  | [] => do
      failed false (← Redirection.around inner redirections do
        assignAll inner false assignments
        return (← session).wordStatus)
  | name :: arguments =>
      if name = Text.of "exec" ∧ arguments = [] then do
        let prepared ← Redirection.prepare inner redirections
        if ← Redirection.applyAll prepared then
          assignAll inner false assignments
          return 0
        else throw (.fault 2)
      else match runner inner tested (← session) name arguments with
        | .special run => do
            failed true (← Redirection.around inner redirections do
              assignAll inner false assignments
              run)
        | .ordinary run => do
            failed false (← Redirection.around inner redirections
              (withAssignments inner assignments run))

/-- The body is run by a subshell with its redirections. -/
def runSubshell (inner : Evaluator) (tested : Bool) (body : Command)
    (redirections : List Redirection) : Run Nat :=
  Expansion.subshell inner do
    match ← Redirection.around inner redirections (inner.command tested body) with
    | some _ => return (← session).status
    | none => return 2

/-- A stage that writes for ever does so until the next stage has what it needs. -/
def runStage (inner : Evaluator) (stage : Command) (input? output? : Option Nat)
    (channel? : Option Nat) : Run Nat := do
  let before ← session
  let result ← attempt (Expansion.subshell inner do
    match input? with
    | some opening => Expansion.redirect 0 opening
    | none => pure ()
    match output? with
    | some opening => Expansion.redirect 1 opening
    | none => pure ()
    inner.command false stage
    return (← session).status)
  match result with
  | .ok status => return status
  | .error (.stop .never) => do
      update fun _ => before
      let machine ← machine
      match channel? with
      | none => throw (.stop .never)
      | some channel =>
          let hasOutput := ((machine.channels[channel]?).map fun channel =>
            !channel.pieces.isEmpty).getD false
          if machine.steps = 0 ∧ hasOutput then
            setMachine ({ machine with steps := Standing.patience }.updateChannel channel
              fun channel => { channel with endless := true })
            return 0
          else throw (.stop .never)
  | .error leave => throw leave

/-- The stages start at one time, and the pipeline ends with the last of them to end. -/
def pipelineFrom (inner : Evaluator) (start finish : Nat) (input? : Option Nat) :
    List Command → Run Nat
  | [] => return 0
  | [last] => do
      let status ← runStage inner last input? none none
      Builtin.waitUntil finish
      return status
  | stage :: rest => do
      let before ← session
      let (machine, channel, reader, writer) := (← machine).addPipe
      setMachine machine
      let result ← attempt (runStage inner stage input? (some writer) (some channel))
      match result with
      | .ok _ => pure ()
      | .error leave => do
          update fun _ => before
          throw leave
      let machine ← Run.machine
      let ended := machine.clock
      setMachine ({ machine with clock := start }.hold channel 0 ended)
      pipelineFrom inner start (max finish ended) (some reader) rest

def pipeline (inner : Evaluator) (stages : List Command) : Run Nat := do
  let start := (← machine).clock
  pipelineFrom inner start start none stages

/-- The redirections on the outside of a command. -/
def redirectionsOf : Command → List Redirection
  | .simple _ _ redirections | .redirected _ redirections | .subshell _ redirections =>
      redirections
  | _ => []

/-- A command is started and not waited for. It holds the channels open that it could write to. -/
def background (inner : Evaluator) (body : Command) : Run Nat := do
  let machine ← machine
  let start := machine.clock
  let process := machine.nextProcess
  let (machine, nothing) := machine.addOpening ⟨.device (Text.of "null"), true, true, false, 0⟩
  setMachine machine
  let before ← session
  let result ← attempt (Expansion.subshell inner do
    Expansion.redirect 0 nothing
    inner.command false body
    return (← session).status)
  update fun _ => before
  let ended := (← Run.machine).clock
  let (status, finish) ← match result with
    | .ok status => pure (status, ended)
    | .error (.stop .never) => pure (0, endOfTime)
    | .error leave => throw leave
  let covered := (redirectionsOf body).map Redirection.descriptor
  let held := before.descriptors.filter fun (descriptor, _) => !covered.contains descriptor
  let machine ← Run.machine
  let machine := held.foldl (fun machine (_, opening) =>
    match (machine.openings[opening]?).map Opening.target with
    | some (.channel channel) => machine.hold channel process finish
    | _ => machine) machine
  setMachine { machine with
    clock := start, steps := if machine.steps = 0 then Standing.patience else machine.steps }
  update fun session => { session with
    jobs := ⟨process, status, finish⟩ :: session.jobs, lastJob? := some process }
  return 0

/-- What becomes of a loop when its body is left. -/
def afterBody (result : Except Leave Unit) : Run Bool := do
  match result with
  | .ok _ => return true
  | .error (.break_ loops) =>
      if 1 < loops then throw (.break_ (loops - 1)) else return false
  | .error (.continue_ loops) =>
      if 1 < loops then throw (.continue_ (loops - 1)) else return true
  | .error leave => throw leave

/-- The status of a body, which is zero if it was left. -/
def statusAfter (result : Except Leave Unit) : Run Nat := do
  match result with
  | .ok _ => return (← session).status
  | .error _ => return 0

/-- Every turn takes a step, so there are no more turns than steps. -/
def loopWithin (inner : Evaluator) (tested untilTrue : Bool) (condition body : Command)
    (status : Nat) : Nat → Run Nat
  | 0 => throw (.stop .never)
  | fuel + 1 => do
      work Work.step
      let result ← attempt (inner.command true condition)
      let goesOn ← afterBody result
      if !goesOn then return status
      let holds := result.toOption.isSome && ((← session).status = 0) ≠ untilTrue
      if result.toOption.isSome ∧ !holds then return status
      if result.toOption.isNone then loopWithin inner tested untilTrue condition body status fuel
      else do
        let result ← attempt (inner.command tested body)
        let goesOn ← afterBody result
        let status ← statusAfter result
        if goesOn then loopWithin inner tested untilTrue condition body status fuel
        else return status

/-- The loop is one more that can be left. -/
def withinLoop (body : Run Nat) : Run Nat := do
  update fun session => { session with loops := session.loops + 1 }
  let result ← attempt body
  update fun session => { session with loops := session.loops - 1 }
  match result with
  | .ok status => return status
  | .error leave => throw leave

def eachWithin (inner : Evaluator) (tested : Bool) (name : Text) (body : Command)
    (status : Nat) : List Text → Run Nat
  | [] => return status
  | value :: rest => do
      work Work.step
      assign name value
      let result ← attempt (inner.command tested body)
      let goesOn ← afterBody result
      let status ← statusAfter result
      if goesOn then eachWithin inner tested name body status rest else return status

/-- The first branch with a pattern that matches is run. -/
def runBranches (inner : Evaluator) (tested : Bool) (subject : Text) :
    List (List Word × Option Command) → Run Nat
  | [] => return 0
  | (patterns, body?) :: rest => do
      let matched ← patterns.anyM fun pattern => do
        return (Segment.toPattern (← inner.word Manner.single pattern)).accepts subject
      if matched then
        match body? with
        | some body => do
            inner.command tested body
            return (← session).status
        | none => return 0
      else runBranches inner tested subject rest

/-- The status of a command. -/
def statusOf (inner : Evaluator) (tested : Bool) (command : Command) : Run Nat := do
  let run (tested : Bool) (command : Command) : Run Nat := do
    inner.command tested command
    return (← session).status
  match command with
  | .simple assignments words redirections => simple inner tested assignments words redirections
  | .pipeline stages => pipeline inner stages
  | .negation command => do return if (← run true command) = 0 then 1 else 0
  | .both first second => do
      let status ← run true first
      if status = 0 then run tested second else return status
  | .either first second => do
      let status ← run true first
      if status = 0 then return 0 else run tested second
  | .sequence first second => do
      discard (run tested first)
      run tested second
  | .background command => background inner command
  | .redirected command redirections => do
      match ← Redirection.around inner redirections (run tested command) with
      | some status => return status
      | none => return 2
  | .subshell command redirections => runSubshell inner tested command redirections
  | .choice condition yes no? => do
      if (← run true condition) = 0 then run tested yes
      else match no? with
        | some no => run tested no
        | none => return 0
  | .loop untilTrue condition body => do
      let steps := (← machine).steps + 1
      withinLoop (loopWithin inner tested untilTrue condition body 0 steps)
  | .each name words? body => do
      let values ← match words? with
        | some words => do pure (← words.mapM (Expansion.fieldsOf inner)).flatten
        | none => do pure (← session).arguments
      withinLoop (eachWithin inner tested name body 0 values)
  | .branches subject branches => do
      let text ← Expansion.textOf inner Manner.single subject
      runBranches inner tested text branches
  | .function name body => do
      update fun session => { session with
        functions := (name, body) :: session.functions.filter fun other => other.1 ≠ name }
      return 0

/-- The commands after which a failure can end the shell. -/
def isChecked : Command → Bool
  | .simple _ _ _ | .pipeline _ | .subshell _ _ => true
  | _ => false

/-- A command is run, unless the settings say that commands are only read. -/
def runCommand (inner : Evaluator) (tested : Bool) (command : Command) : Run Unit := do
  work Work.step
  if (← session).isOn 'n' then return
  setStatus (← statusOf inner tested command)
  runPending inner
  if isChecked command then checkFailure tested

end Promptline.Shell.Evaluation
