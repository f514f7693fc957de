/-
This file gives the descriptors of commands new openings.
-/

import Promptline.Shell.Expansion

namespace Promptline.Shell.Redirection

open Run

/-- The descriptor that a path in the directory of devices stands for. -/
def descriptorOf? (path : Text) : Option Nat :=
  match String.ofList path with
  | "/dev/stdin" => some 0
  | "/dev/stdout" => some 1
  | "/dev/stderr" => some 2
  | _ =>
      let start := Text.of "/dev/fd/"
      if start.isPrefixOf path then
        let digits := path.drop start.length
        if digits ≠ [] ∧ digits.all Char.isDigit then some (Integer.natural 10 digits) else none
      else none

/-- The node at a path is opened, and something that is not there can be made. -/
def opening (session : Session) (machine : Machine) (kind : RedirectionKind) (path : Text) :
    Except PathFault (FileTree × Opening) := do
  let place ← machine.files.place session.directory path
  let writes := kind ≠ .read
  let result (files : FileTree) (target : Target) : FileTree × Opening :=
    (files, ⟨target, kind = .read || kind = .readWrite, writes, kind = .append, 0⟩)
  let keeps := session.isOn 'C' && kind = .write
  match machine.files.node? place with
  | some .directory =>
      if writes then throw .isDirectory else return result machine.files (.directory place)
  | some (.device name) =>
      if name = Text.of "tty" then throw .absent else return result machine.files (.device name)
  | some (.file _) =>
      if keeps then throw .exists_
      let empties := kind = .write || kind = .replace
      return result (if empties then machine.files.put place (.file []) else machine.files)
        (.file place)
  | some _ => return result machine.files (.file place)
  | none =>
      if writes then return result (machine.files.put place (.file [])) (.file place)
      throw .absent

/-- How a fault of opening is reported. -/
def reason (kind : RedirectionKind) (fault : PathFault) : Text :=
  match kind, fault with
  | .read, .absent | .read, .notDirectory => Text.of "No such file"
  | _, .absent | _, .notDirectory => Text.of "Directory nonexistent"
  | _, fault => fault.description

/-- The descriptor gets the opening of another one, or none. -/
def copy (descriptor : Nat) (source : Text) : Run Bool := do
  match source with
  | ['-'] => do
      update fun session => { session with
        descriptors := session.descriptors.filter (·.1 ≠ descriptor) }
      return true
  | [digit] => do
      if !digit.isDigit then fail SyntaxFault.descriptor.message
      match (← session).descriptors.lookup (digit.toNat - '0'.toNat) with
      | some opening => do
          Expansion.redirect descriptor opening
          return true
      | none => do
          complain (source ++ Text.of ": Bad file descriptor")
          return false
  | _ => fail SyntaxFault.descriptor.message

/-- One redirection with its expanded target. The result tells whether it could be done. -/
def apply (descriptor : Nat) (kind : RedirectionKind) (target : Text) : Run Bool := do
  match kind with
  | .copy => copy descriptor target
  | .document => do
      let (machine, channel, reader, _) := (← machine).addPipe
      let time := machine.clock
      setMachine (machine.updateChannel channel fun channel =>
        { channel with pieces := #[(time, target)] })
      Expansion.redirect descriptor reader
      return true
  | kind =>
      match descriptorOf? target with
      | some source => copy descriptor (Text.ofNat source)
      | none =>
          let machine ← machine
          match opening (← session) machine kind target with
          | .ok (files, opening) => do
              let (machine, index) := { machine with files }.addOpening opening
              setMachine machine
              Expansion.redirect descriptor index
              return true
          | .error fault => do
              let verb := if kind = .read then "cannot open " else "cannot create "
              complain (Text.of verb ++ target ++ Text.of ": " ++ reason kind fault)
              return false

def applyAll : List (Nat × RedirectionKind × Text) → Run Bool
  | [] => return true
  | (descriptor, kind, target) :: rest => do
      if ← apply descriptor kind target then applyAll rest else return false

/-- The targets are expanded before anything is opened. -/
def prepare (inner : Evaluator) (redirections : List Redirection) :
    Run (List (Nat × RedirectionKind × Text)) :=
  redirections.mapM fun redirection => do
    let target ← Expansion.textOf inner
      (if redirection.kind = .document then Manner.text else Manner.single) redirection.target
    return (redirection.descriptor, redirection.kind, target)

/-- The body is run with its redirections, unless one of them fails. -/
def around {A : Type} (inner : Evaluator) (redirections : List Redirection) (body : Run A) :
    Run (Option A) := do
  let prepared ← prepare inner redirections
  let before := (← session).descriptors
  let restore : Run Unit := update fun session => { session with descriptors := before }
  match ← attempt (applyAll prepared) with
  | .error leave => do
      restore
      throw leave
  | .ok false => do
      restore
      return none
  | .ok true =>
      match ← attempt body with
      | .ok value => do
          restore
          return some value
      | .error leave => do
          restore
          throw leave

end Promptline.Shell.Redirection
