/-
This file defines the machine that programs run on: files, channels between programs, and a clock.
Programs run one after the other, and every piece in a channel keeps the time of its writing, so
that programs may also stand for ones that run side by side.
-/

import Promptline.Program.FileTree
import Promptline.Program.Outcome

namespace Promptline

/-- What programs have written into a channel and nobody has read, with the times in
microseconds. -/
structure Channel where
  pieces : Array (Nat × Text)
  /-- The writers, each with the time at which it ends. -/
  writers : List (Nat × Nat)
  /-- Some writer goes on for ever. -/
  endless : Bool
  deriving Repr

/-- Where the bytes of an opening come from and go to. -/
inductive Target where
  | channel (index : Nat)
  | file (place : Place)
  | device (name : Text)
  | directory (place : Place)
  deriving DecidableEq, Repr

/-- A program reads and writes through openings. -/
structure Opening where
  target : Target
  readable : Bool
  writable : Bool
  appends : Bool
  position : Nat
  deriving DecidableEq, Repr

/-- The time at which the last writer ends. -/
def Channel.finish (channel : Channel) : Nat := (channel.writers.map Prod.snd).foldl max 0

structure Machine where
  files : FileTree
  channels : Array Channel
  openings : Array Opening
  /-- The time in microseconds. -/
  clock : Nat
  /-- The number of steps that are still taken before a run counts as endless. -/
  steps : Nat
  /-- The number of the next process. -/
  nextProcess : Nat

/-- Why a program does not go on. -/
inductive Stop where
  | ended (ending : Ending)
  | killed (process signal : Nat)
  /-- The program waits or runs for ever. -/
  | never
  deriving DecidableEq, Repr

/-- What a program gets from the one that starts it. -/
structure Process where
  identity : Nat
  /-- The process that has started this one. -/
  parent : Nat
  environment : List (Text × Text)
  directory : Place
  /-- The openings by the descriptors that lead to them. -/
  descriptors : List (Nat × Nat)

namespace Machine

/-- A new channel with nothing in it. -/
def addChannel (machine : Machine) : Machine × Nat :=
  ({ machine with channels := machine.channels.push ⟨#[], [], false⟩ }, machine.channels.size)

def addOpening (machine : Machine) (opening : Opening) : Machine × Nat :=
  ({ machine with openings := machine.openings.push opening }, machine.openings.size)

/-- The openings of both ends of a new channel. -/
def addPipe (machine : Machine) : Machine × Nat × Nat × Nat :=
  let (machine, channel) := machine.addChannel
  let (machine, reader) := machine.addOpening ⟨.channel channel, true, false, false, 0⟩
  let (machine, writer) := machine.addOpening ⟨.channel channel, false, true, true, 0⟩
  (machine, channel, reader, writer)

def updateChannel (machine : Machine) (index : Nat) (update : Channel → Channel) : Machine :=
  { machine with channels := machine.channels.modify index update }

/-- A process keeps a channel open until a time. -/
def hold (machine : Machine) (index process time : Nat) : Machine :=
  machine.updateChannel index fun channel =>
    { channel with writers := (process, time) :: channel.writers }

/-- A process ends at a time, and earlier than was planned. -/
def release (machine : Machine) (process time : Nat) : Machine :=
  { machine with channels := machine.channels.map fun channel =>
      { channel with writers := channel.writers.map fun writer =>
          if writer.1 = process then (process, min time writer.2) else writer } }

def setPosition (machine : Machine) (index position : Nat) : Machine :=
  { machine with
    openings := machine.openings.modify index fun opening => { opening with position } }

def content (machine : Machine) (place : Place) : Text :=
  match machine.files.node? place with
  | some (.file content) => content
  | _ => []

/-- The text takes the place of what stands at the position, and zeros fill up a gap. -/
def overwrite (content : Text) (position : Nat) (text : Text) : Text :=
  content.take position ++ List.replicate (position - content.length) '\x00' ++ text ++
    content.drop (position + text.length)

/-- A text can be written through an opening. -/
def accepts (machine : Machine) (index : Nat) (text : Text) : Bool :=
  match machine.openings[index]? with
  | none => false
  | some opening =>
      opening.writable && match opening.target with
        | .channel _ | .file _ => true
        | .device name => name ≠ Text.of "full" || text = []
        | .directory _ => false

/-- The machine after a text has been written through an opening. -/
def write (machine : Machine) (index : Nat) (text : Text) : Machine :=
  match machine.openings[index]? with
  | none => machine
  | some opening =>
      match opening.target with
      | .channel channel =>
          let time := machine.clock
          machine.updateChannel channel fun channel =>
            { channel with pieces := channel.pieces.push (time, text) }
      | .file place =>
          let content := machine.content place
          let position := if opening.appends then content.length else opening.position
          let machine := machine.setPosition index (position + text.length)
          { machine with
            files := machine.files.put place (.file (overwrite content position text)) }
      | _ => machine

/-- An endless source is taken to hold so many characters. -/
def endlessSize : Nat := 1000000

/-- The endless content of a device, if there is one. -/
def endlessContent? (name : Text) : Option Text :=
  match String.ofList name with
  | "zero" | "full" => some (List.replicate endlessSize '\x00')
  | "random" | "urandom" =>
      some ((List.range endlessSize).map fun index => Text.ofByte (index * 167).toUInt8)
  | _ => none

/-- What can still be read, and whether more follows for ever. Nothing is said of an opening that
is not readable. -/
def unread? (machine : Machine) (index : Nat) : Option (Text × Bool) :=
  match machine.openings[index]? with
  | none => none
  | some opening =>
      if !opening.readable then none
      else match opening.target with
        | .channel channel =>
            (machine.channels[channel]?).map fun channel =>
              (channel.pieces.toList.flatMap Prod.snd, channel.endless)
        | .file place => some ((machine.content place).drop opening.position, false)
        | .device name =>
            some (((endlessContent? name).map fun content => (content, true)).getD ([], false))
        | .directory _ => none

/-- The pieces behind the first characters, and the time at which the last of those is there. -/
def skip (count : Nat) (time : Nat) : List (Nat × Text) → Nat × List (Nat × Text)
  | [] => (time, [])
  | (written, text) :: rest =>
      if count = 0 then (time, (written, text) :: rest)
      else if count < text.length then (max time written, (written, text.drop count) :: rest)
      else skip (count - text.length) (max time written) rest

/-- The first characters are read. A reader that sees the end has waited for the last writer. -/
def consume (machine : Machine) (index count : Nat) (seesEnd : Bool) : Machine :=
  match machine.openings[index]? with
  | none => machine
  | some opening =>
      match opening.target with
      | .channel channel =>
          match machine.channels[channel]? with
          | none => machine
          | some content =>
              let (time, pieces) := skip count machine.clock content.pieces.toList
              { machine with
                clock := if seesEnd then max time content.finish else time
                channels := machine.channels.set! channel
                  { content with pieces := pieces.toArray } }
      | _ => machine.setPosition index (opening.position + count)

/-- The pieces of a channel in the order of their writing. -/
def transcript (machine : Machine) (index : Nat) : Text :=
  match machine.channels[index]? with
  | none => []
  | some channel =>
      (channel.pieces.toList.mergeSort fun first second => first.1 ≤ second.1).flatMap Prod.snd

end Machine

end Promptline
