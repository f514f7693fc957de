/-
This file defines the state of a shell, and the steps that commands are put together from: they see
the shell and the machine, and they may leave what surrounds them.
-/

import Promptline.Program.Work
import Promptline.Shell.Command

namespace Promptline.Shell

structure Variable where
  value? : Option Text
  exported : Bool
  readOnly : Bool
  deriving DecidableEq, Repr

/-- No command ends later than this, in microseconds. -/
def endOfTime : Nat := 1000000000000000

/-- A command that was started and not waited for. -/
structure Job where
  process : Nat
  status : Nat
  /-- The time in microseconds at which it ends. -/
  finish : Nat
  deriving DecidableEq, Repr

/-- What a shell knows. A subshell starts with all of it and gives nothing of it back. -/
structure Session where
  /-- The shell that scripts refer to, and the process that runs this part of it. -/
  shellProcess : Nat
  process : Nat
  parent : Nat
  /-- The name of the script and its arguments. -/
  name : Text
  arguments : List Text
  bindings : List (Text × Variable)
  functions : List (Text × Command)
  /-- The letters of the settings that are on. -/
  settings : List Char
  status : Nat
  /-- The status of the last script inside of a word, in the command that is run. -/
  wordStatus : Nat
  descriptors : List (Nat × Nat)
  directory : Place
  /-- The path on which the directory was reached. -/
  path : Text
  /-- The permissions that new files do not get. -/
  mask : Nat
  /-- What is run for a signal, where zero stands for the end. -/
  traps : List (Nat × Text)
  /-- The signals that have come and that something is run for. -/
  pending : List Nat
  /-- What the variables of the open functions were before. -/
  locals : List (List (Text × Option Variable))
  loops : Nat
  functionDepth : Nat
  jobs : List Job
  lastJob? : Option Nat
  /-- How many letters of the current argument have been gone through as options. -/
  optionOffset : Nat
  /-- The builtin that is run, for messages. -/
  builtin? : Option Text
  aliases : List (Text × Text)

structure World where
  session : Session
  machine : Machine

/-- How commands leave what surrounds them. -/
inductive Leave where
  /-- A fault that has been reported. -/
  | fault (status : Nat)
  | exit (status : Nat)
  | return_ (status : Nat)
  | break_ (loops : Nat)
  | continue_ (loops : Nat)
  | stop (stop : Stop)
  deriving DecidableEq, Repr

abbrev Run := ExceptT Leave (StateM World)

namespace Run

def session : Run Session := do return (← getThe World).session

def update (change : Session → Session) : Run Unit :=
  modify fun world => { world with session := change world.session }

def machine : Run Machine := do return (← getThe World).machine

def setMachine (machine : Machine) : Run Unit := modify fun world => { world with machine }

def setStatus (status : Nat) : Run Unit := update fun session => { session with status }

end Run

namespace Session

/-- The variables that programs see. -/
def environment (session : Session) : List (Text × Text) :=
  session.bindings.filterMap fun (name, variable_) =>
    if variable_.exported then variable_.value?.map fun value => (name, value) else none

def process_ (session : Session) : Process :=
  ⟨session.process, session.parent, session.environment, session.directory, session.descriptors⟩

def value? (session : Session) (name : Text) : Option Text :=
  (session.bindings.lookup name).bind Variable.value?

def set (session : Session) (name : Text) (variable_ : Variable) : Session :=
  { session with
    bindings := (name, variable_) :: session.bindings.filter fun other => other.1 ≠ name }

def remove (session : Session) (name : Text) : Session :=
  { session with bindings := session.bindings.filter fun other => other.1 ≠ name }

def isOn (session : Session) (setting : Char) : Bool := session.settings.contains setting

end Session

namespace Run

/-- Work of a process is done by the shell. -/
def work {A : Type} (work : Work A) : Run A := fun world =>
  let ⟨session, machine⟩ := world
  let (result, machine) := (work.run session.process_).run machine
  (result.mapError Leave.stop, ⟨session, machine⟩)

/-- A message on the descriptor for faults. -/
def complain (text : Text) : Run Unit := do
  let session ← session
  let builtin := match session.builtin? with
    | some name => name ++ Text.of ": "
    | none => []
  discard (work (Work.write? 2 (session.name ++ Text.of ": 1: " ++ builtin ++ text ++ ['\n'])))

/-- A reported fault. -/
def fail {A : Type} (text : Text) (status : Nat := 2) : Run A := do
  complain text
  throw (.fault status)

def illegalNumber {A : Type} (text : Text) : Run A := fail (Text.of "Illegal number: " ++ text)

/-- A script that makes longer values does not end in time. -/
def longestValue : Nat := 4000000

/-- The value of a variable is set, unless it is read-only. -/
def assign (name : Text) (value : Text) : Run Unit := do
  if longestValue < value.length then throw (.stop .never)
  let session ← session
  let before := (session.bindings.lookup name).getD ⟨none, session.isOn 'a', false⟩
  if before.readOnly then fail (name ++ Text.of ": is read only")
  let change (session : Session) : Session :=
    session.set name { before with value? := some value, exported := before.exported }
  update fun session =>
    if name = Text.of "OPTIND" then { change session with optionOffset := 0 } else change session

/-- The body is run, and what it throws is handed to the caller as a value. -/
def attempt {A : Type} (body : Run A) : Run (Except Leave A) := fun world =>
  let (result, world) := body.run world
  (.ok result, world)

end Run

end Promptline.Shell
