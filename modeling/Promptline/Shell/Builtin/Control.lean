/-
This file defines the builtins that leave loops, functions and shells, and those that deal with
processes and their signals.
-/

import Promptline.Shell.Builtin.Options

namespace Promptline.Shell.Builtin

open Run

/-- A status given as an argument, or the present one. -/
def statusOf (arguments : List Text) : Run Nat := do
  match arguments with
  | [] => return (← session).status
  | text :: _ => number text

def exit : Builtin := fun arguments => do throw (.exit (← statusOf arguments))

def return_ : Builtin := fun arguments => do throw (.return_ (← statusOf arguments))

/-- As many loops as there are can be left. Outside of loops nothing happens. -/
def leaveLoops (leave : Nat → Leave) : Builtin := fun arguments => do
  let count ← match arguments with
    | [] => pure 1
    | text :: _ => do
        let count ← number text
        if count = 0 then illegalNumber text
        pure count
  let loops := (← session).loops
  if loops = 0 then return 0
  throw (leave (min count loops))

def break_ : Builtin := leaveLoops Leave.break_

def continue_ : Builtin := leaveLoops Leave.continue_

/-- The listing of what is run for signals. -/
def trapListing (session : Session) : Text :=
  (session.traps.mergeSort fun first second => first.1 ≤ second.1).flatMap fun (signal, action) =>
    Text.of "trap -- " ++ singleQuoted action ++ ' ' :: Signal.scriptName signal ++ ['\n']

/-- For each signal something is run from now on, or again what would be without it. -/
def setTraps (action? : Option Text) : List Text → Run Nat
  | [] => return 0
  | word :: rest => do
      match Signal.ofWord? 0 word with
      | none => do
          discard (work (Work.write? 2 (Text.of "trap: " ++ word ++ Text.of ": bad trap\n")))
          return 1
      | some signal => do
          update fun session =>
            let others := session.traps.filter fun trap => trap.1 ≠ signal
            match action? with
            | some action =>
                { session with
                  traps := if action = ['-'] then others else (signal, action) :: others }
            | none => { session with traps := others }
          setTraps action? rest

def trap : Builtin := fun arguments => do
  match ← operands arguments with
  | [] => put (trapListing (← session))
  | [word] => setTraps none [word]
  | first :: rest =>
      if isDigits first ∧ (Signal.ofWord? 0 first).isSome then setTraps none (first :: rest)
      else setTraps (some first) rest

def killUsage : Text :=
  Text.of "Usage: kill [-s sigspec | -signum | -sigspec] [pid | job]... or\nkill -l [exitstatus]"

/-- A process gets a signal. The status tells whether there is such a process. -/
def send (signal : Nat) (target : Int) : Run Nat := do
  let session ← session
  let own := target ≤ 0 || target = session.process || target = session.shellProcess
  if own then
    if signal = 0 ∨ Signal.isIgnored signal then
      if target = session.process ∧ ((session.traps.lookup signal).getD []) ≠ [] ∧ signal ≠ 0 then
        update fun session => { session with pending := session.pending ++ [signal] }
      return 0
    let caught? := if signal = Signal.kill ∨ signal = 19 then none else session.traps.lookup signal
    match caught? with
    | some [] => return 0
    | some _ => do
        update fun session => { session with pending := session.pending ++ [signal] }
        return 0
    | none =>
        if Signal.isStop signal then throw (.stop .never)
        let target := if target ≤ 0 then session.shellProcess else target.toNat
        throw (.stop (.killed target signal))
  else if target = session.parent then
    if signal = 0 ∨ Signal.isIgnored signal then return 0
    throw (.stop (.killed session.parent signal))
  else
    let now := (← machine).clock
    match session.jobs.find? fun job => (job.process : Int) = target ∧ now < job.finish with
    | some job => do
        if signal ≠ 0 ∧ !Signal.isIgnored signal then
          setMachine ((← machine).release job.process now)
          update fun session => { session with
            jobs := session.jobs.map fun other =>
              if other.process = job.process then
                { other with status := 128 + signal, finish := now }
              else other }
        return 0
    | none => do
        complain (Text.of "No such process\n")
        return 1

def sendAll (signal status : Nat) : List Text → Run Nat
  | [] => return status
  | word :: rest => do
      let target : Int ← match word with
        | '-' :: digits => do pure (-((← number digits) : Int))
        | digits => do pure ((← number digits) : Int)
      let sent ← send signal target
      sendAll signal (max status sent) rest

/-- The name of the signal that a number or a status stands for. -/
def signalListing (arguments : List Text) : Run Nat := do
  match arguments with
  | [] =>
      put (['0', '\n'] ++ ((List.range Signal.last).flatMap fun n =>
        Signal.scriptName (n + 1) ++ ['\n']))
  | word :: _ => do
      let number ← number word
      let signal := if 128 < number then number - 128 else number
      if signal = 0 ∨ Signal.last < signal then
        fail (Text.of "invalid signal number or exit status: " ++ word)
      put (Signal.scriptName signal ++ ['\n'])

def kill : Builtin := fun arguments => do
  let usage {A : Type} : Run A := fail killUsage
  match arguments with
  | [] => usage
  | first :: rest =>
      match first with
      | '-' :: name =>
          match Signal.ofWord? 1 name with
          | some signal => if rest = [] then usage else sendAll signal 0 rest
          | none => do
              let (found, rest) ← options ⟨['l'], ['s']⟩ arguments
              let signal ← match (found.reverse.find? fun option => option.1 = 's') with
                | none => pure Signal.terminate
                | some (_, name) =>
                    match Signal.ofWord? 1 name with
                    | some signal => pure signal
                    | none => fail (Text.of "invalid signal number or name: " ++ name)
              if found.any fun option => option.1 = 'l' then signalListing rest
              else if rest = [] then usage
              else sendAll signal 0 rest
      | _ => sendAll Signal.terminate 0 arguments

/-- The shell waits until a time has come. -/
def waitUntil (time : Nat) : Run Unit := do
  let machine ← machine
  setMachine { machine with clock := max machine.clock time }

/-- Without arguments all jobs are waited for. -/
def wait : Builtin := fun arguments => do
  let names ← operands arguments
  let session ← session
  let never := session.jobs.any fun job => endOfTime ≤ job.finish
  if names = [] then do
    if never then throw (.stop .never)
    waitUntil ((session.jobs.map Job.finish).foldl max 0)
    return 0
  else
    names.foldlM (fun _ name => do
      let target ← number name
      match session.jobs.find? fun job => job.process = target with
      | none => return 127
      | some job => do
          if endOfTime ≤ job.finish then throw (.stop .never)
          waitUntil job.finish
          return job.status) 0

def octal (length n : Nat) : Text :=
  let digits := Nat.toDigits 8 n
  List.replicate (length - digits.length) '0' ++ digits

/-- The permissions in the form with letters. -/
def permissions (mask : Nat) : Text :=
  let letters (shift : Nat) : Text :=
    (['r', 'w', 'x'].zipIdx.filter fun (_, index) =>
      (mask >>> shift) &&& (4 >>> index) = 0).map Prod.fst
  Text.of "u=" ++ letters 6 ++ Text.of ",g=" ++ letters 3 ++ Text.of ",o=" ++ letters 0

/-- The bits of the letters for permissions, for one kind of user. -/
def permissionBits (letters : Text) : Nat :=
  [('r', 4), ('w', 2), ('x', 1)].foldl (fun bits (letter, bit) =>
    if letters.contains letter then bits ||| bit else bits) 0

/-- The bits for some kinds of users, where no letter stands for all of them. -/
def userBits (users : Text) (bits : Nat) : Nat :=
  let all := users = [] || users.contains 'a'
  [('u', 6), ('g', 3), ('o', 0)].foldl (fun mask (letter, shift) =>
    if all || users.contains letter then mask ||| (bits <<< shift) else mask) 0

/-- The operators behind the letters for users are applied one after the other. -/
def applyOperators (users : Text) : Nat → Text → Nat → Option Nat
  | 0, _, _ => none
  | fuel + 1, text, allowed =>
      match text with
      | [] => some allowed
      | operator :: rest =>
          let letters := rest.takeWhile "rwxXst".toList.contains
          let bits := userBits users (permissionBits letters)
          let behind := rest.drop letters.length
          let without (bits : Nat) : Nat := allowed - (allowed &&& bits)
          match operator with
          | '+' => applyOperators users fuel behind (allowed ||| bits)
          | '-' => applyOperators users fuel behind (without bits)
          | '=' => applyOperators users fuel behind (without (userBits users 7) ||| bits)
          | _ => none

/-- The permissions that a mode with letters leaves, out of the present ones. -/
def allowedBy? (mode : Text) (allowed : Nat) : Option Nat :=
  (Text.pieces (· = ',') mode).foldlM (fun allowed clause =>
    let users := clause.takeWhile "ugoa".toList.contains
    let rest := clause.drop users.length
    if rest = [] then none else applyOperators users (rest.length + 1) rest allowed) allowed

def umask : Builtin := fun arguments => do
  let (found, rest) ← options ⟨['S'], []⟩ arguments
  match rest with
  | [] => do
      let mask := (← session).mask
      put ((if found = [] then octal 4 mask else permissions mask) ++ ['\n'])
  | mode :: _ => do
      let digits? := mode.mapM (EscapeRules.digit? 8)
      let letters? := (allowedBy? mode (511 - (← session).mask)).map fun allowed => 511 - allowed
      let mask? := (digits?.map fun digits =>
        (digits.foldl (fun n digit => n * 8 + digit) 0) % 512) <|> letters?
      match if mode.head?.any Char.isDigit ∧ digits?.isNone then none else mask? with
      | some mask => do
          update fun session => { session with mask }
          return 0
      | none =>
          fail ((if mode.head?.any Char.isDigit then Text.of "Illegal number: "
            else Text.of "Illegal mode: ") ++ mode)

/-- Only files for memory are limited. -/
def ulimit : Builtin := fun arguments => do
  let (found, rest) ← options ⟨"HSatfdscmlpnvwr".toList, []⟩ arguments
  if rest ≠ [] then return 0
  put (Text.of (if found.any fun option => option.1 = 'c' then "0\n" else "unlimited\n"))

/-- The times that have been spent are not counted. -/
def times : Builtin := fun _ => put (Text.of "0m0.000000s 0m0.000000s\n0m0.000000s 0m0.000000s\n")

/-- There is no terminal to bring jobs to. -/
def jobControl : Builtin := fun _ => fail (Text.of "No current job")

end Promptline.Shell.Builtin
