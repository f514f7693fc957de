/-
This file defines the commands of the shell, as a script is made of them.
-/

import Promptline.Shell.Word

namespace Promptline.Shell

inductive RedirectionKind where
  | read
  | write
  /-- A write that replaces a file even where that is forbidden. -/
  | replace
  | append
  | readWrite
  | copy
  | document
  deriving DecidableEq, Repr

/-- A descriptor gets a new opening. -/
structure Redirection where
  descriptor : Nat
  kind : RedirectionKind
  target : Word
  deriving Repr

inductive Command where
  | simple (assignments : List (Text × Word)) (words : List Word) (redirections : List Redirection)
  | pipeline (stages : List Command)
  | negation (command : Command)
  | both (first second : Command)
  | either (first second : Command)
  | sequence (first second : Command)
  | background (command : Command)
  | redirected (command : Command) (redirections : List Redirection)
  | subshell (command : Command) (redirections : List Redirection)
  | choice (condition yes : Command) (no? : Option Command)
  | loop (untilTrue : Bool) (condition body : Command)
  /-- Without words the arguments are gone through. -/
  | each (name : Text) (words? : Option (List Word)) (body : Command)
  | branches (subject : Word) (branches : List (List Word × Option Command))
  | function (name : Text) (body : Command)
  deriving Repr

namespace Command

/-- One command behind another, if there is one. -/
def andThen : Option Command → Command → Command
  | none, second => second
  | some first, second => sequence first second

def run (command? : Option Command) : Command := command?.getD (simple [] [] [])

end Command

end Promptline.Shell
