/-
This file defines the work of a program: it runs on the machine as a process that reads, writes and
ends.
-/

import Promptline.Program.Machine

namespace Promptline

/-- What a process does on the machine until it stops. -/
abbrev Work := ReaderT Process (ExceptT Stop (StateM Machine))

namespace Work

/-- So many steps are taken. If there are none left, the run counts as an endless one. -/
def spend (count : Nat) : Work Unit := do
  let machine ← getThe Machine
  if machine.steps = 0 then throw .never
  set { machine with steps := machine.steps - count }

def step : Work Unit := spend 1

/-- A new process takes many steps. -/
def fork : Work Unit := spend 20

def opening? (descriptor : Nat) : Work (Option Nat) := do
  return (← read).descriptors.lookup descriptor

/-- The text is written if the descriptor allows it. -/
def write? (descriptor : Nat) (text : Text) : Work Bool := do
  match ← opening? descriptor with
  | none => return false
  | some opening =>
      modifyGetThe Machine fun machine =>
        if machine.accepts opening text then (true, machine.write opening text)
        else (false, machine)

/-- Output that cannot be written is a fault. -/
def put (text : Text) : Work Nat := do
  if text = [] then return 0
  return if ← write? 1 text then 0 else 1

def complain (text : Text) : Work Unit := discard (write? 2 (text ++ ['\n']))

/-- A part of the input, where the given function tells how much is taken and whether the end has
to be seen. -/
def take (descriptor : Nat) (wanted : Text → Nat × Bool) : Work (Option Text) := do
  match ← opening? descriptor with
  | none => return none
  | some opening =>
      match (← getThe Machine).unread? opening with
      | none => return none
      | some (content, endless) =>
          let (count, seesEnd) := wanted content
          if seesEnd ∧ endless then throw .never
          modify fun machine => machine.consume opening count seesEnd
          return some (content.take count)

/-- The whole input. -/
def input? : Work (Option Text) := take 0 fun content => (content.length, true)

/-- What can be read somewhere, and whether more of it follows for ever. -/
structure Source where
  text : Text
  endless : Bool
  deriving DecidableEq, Repr

/-- All that is there of the input, unless nothing can be read. An endless input is not waited
for. -/
def flow? : Work (Option Source) := do
  match ← opening? 0 with
  | none => return none
  | some opening =>
      match (← getThe Machine).unread? opening with
      | none => return none
      | some (text, endless) =>
          modify fun machine => machine.consume opening text.length !endless
          return some ⟨text, endless⟩

/-- What can be read at a path. A dash alone stands for the input. -/
def source (path : Text) : Work (Except PathFault Source) := do
  if path = ['-'] ∨ path = Text.of "/dev/stdin" then
    return ((← flow?).map Except.ok).getD (.error .denied)
  let directory := (← read).directory
  let files := (← getThe Machine).files
  match files.find directory path with
  | .ok (_, .device name) =>
      let content? := Machine.endlessContent? name
      return .ok ⟨content?.getD [], content?.isSome⟩
  | _ => return (files.read directory path).map fun text => ⟨text, false⟩

/-- The content of the file at a path, which has to end. -/
def content (path : Text) : Work (Except PathFault Text) := do
  match ← source path with
  | .ok found =>
      if found.endless then throw .never
      return .ok found.text
  | .error fault => return .error fault

/-- Output that goes on for ever if it comes from such a source. -/
def pour (output : Source) : Work Nat := do
  if !output.endless then put output.text
  else if output.text = [] then throw .never
  else
    let status ← put output.text
    if status ≠ 0 then return status
    match ← opening? 1 with
    | none => return 1
    | some opening =>
        let machine ← getThe Machine
        match (machine.openings[opening]?).map Opening.target with
        | some (.channel channel) => do
            set (machine.updateChannel channel fun channel => { channel with endless := true })
            return 0
        | some (.file _) => return 1
        | _ => throw .never

/-- Some time passes. -/
def pause (microseconds : Nat) : Work Unit :=
  modify fun machine => { machine with clock := machine.clock + microseconds }

def changeFiles (change : FileTree → FileTree) : Work Unit :=
  modify fun machine => { machine with files := change machine.files }

end Work

end Promptline
