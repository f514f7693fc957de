/-
This file defines the session behind the editor: it runs submitted lines and completes commands from
its registry and from its own list.
-/

import Promptline.Program.Completer
import Promptline.Settings.Basic
import Promptline.Spec.Builtin

namespace Promptline

structure Session where
  registry : Registry
  host : CompletionHost
  sigils : List Text

/-- What comes of a submitted line. -/
inductive LineOutcome where
  | output (text : Text)
  | exit
  deriving DecidableEq, Repr

namespace Session

/-- The programs of the host have limited time, and it has no functions. -/
def hostOf (programs : Programs) (settings : CompletionSettings) : CompletionHost where
  program? program context := (Completer.run programs settings.patience program context).toOption
  function? := none

def empty (programs : Programs) (settings : CompletionSettings) : Session :=
  ⟨.empty, hostOf programs settings, settings.sigils⟩

/-- Lines that are no calls or fail are skipped, and the number tells how many were run. -/
def register (session : Session) (lines : List Text) : Session × Nat :=
  lines.foldl (fun (session, count) line =>
    match Builtin.runLine session.registry session.host line with
    | (registry, some (.ok _)) => ({ session with registry }, count + 1)
    | (registry, _) => ({ session with registry }, count)) (session, 0)

/-- A session with the specifications of its settings. -/
def ofSettings (programs : Programs) (settings : CompletionSettings) : Session :=
  ((empty programs settings).register settings.specs).1

/-- The commands that a session knows, in order. -/
def commands : List Text :=
  [Text.of "compgen", Text.of "complete", Text.of "exit", Text.of "history"]

/-- The commands are offered for the first word of a line. -/
def commandCandidates (line : Text) (cursor : Nat) : List Candidate :=
  let context := Context.ofLine line cursor
  if context.inCommand then
    (commands.filter fun command => command.startsWith context.word).map Candidate.ofValue
  else []

/-- The registry is asked first. -/
def source (session : Session) : Source :=
  .chain [session.registry.source session.host session.sigils, .ofCandidates commandCandidates]

/-- The oldest command has the number one, in a column of five. -/
def listing (history : List HistoryItem) : Text :=
  (history.reverse.zipIdx 1).flatMap fun (item, number) =>
    (Text.ofNat number).padLeft 5 ++ Text.of "  " ++ item.command ++ ['\n']

/-- An output that is not empty ends with a line end. -/
def terminated (text : Text) : Text :=
  if text = [] ∨ text.getLast? = some '\n' then text else text ++ ['\n']

/-- A line without a command of the session is printed as it is. -/
def execute (session : Session) (line : Text) (history : List HistoryItem) :
    Session × LineOutcome :=
  match line.words.head? with
  | none => (session, .output [])
  | some word =>
      if word = Text.of "exit" then (session, .exit)
      else if word = Text.of "history" then (session, .output (listing history))
      else
        let (registry, answer?) := Builtin.runLine session.registry session.host line.trim
        let text :=
          match answer? with
          | some (.ok text) => terminated text
          | some (.error error) => error.message ++ ['\n']
          | none => line ++ ['\n']
        ({ session with registry }, .output text)

/-- A blank line is not remembered. -/
def remembers (line : Text) : Bool := line.trim ≠ []

end Session

end Promptline
