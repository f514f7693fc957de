/-
This file defines completion specifications, their printed form and the registry that holds one for
each command.
-/

import Promptline.Text.Quoted

namespace Promptline

inductive SpecKind where
  | wordList
  | function
  | program
  deriving DecidableEq, Repr

/-- A specification says where the words after a command come from. -/
structure Spec where
  command : Text
  kind : SpecKind
  value : Text
  options : List Text
  deriving DecidableEq, Repr

namespace SpecKind

def flag : SpecKind → Text
  | wordList => Text.of "-W"
  | function => Text.of "-F"
  | program => Text.of "-C"

def ofFlag? (word : Text) : Option SpecKind :=
  [wordList, function, program].find? fun kind => kind.flag = word

end SpecKind

namespace Spec

/-- The summary is the help text of the command. -/
def summary (spec : Spec) : Text :=
  match spec.kind with
  | .wordList => spec.command ++ Text.of ": " ++ spec.value
  | .function => spec.command ++ Text.of ": completed by function " ++ spec.value
  | .program => spec.command ++ Text.of ": completed by `" ++ spec.value ++ Text.of "`"

/-- The printed form is a command line that enters the specification again. -/
def print (spec : Spec) : Text :=
  Text.join [' '] (Text.of "complete" ::
    (spec.options.flatMap fun option => [Text.of "-o", option.quote]) ++
    [spec.kind.flag, spec.value.quote, spec.command.quote])

end Spec

/-- The specifications stand in the order of their commands, and no command has two. -/
structure Registry where
  specs : List Spec
  deriving DecidableEq, Repr

namespace Registry

def empty : Registry := ⟨[]⟩

def find? (registry : Registry) (command : Text) : Option Spec :=
  registry.specs.find? fun spec => spec.command = command

/-- A specification goes to its place and replaces one for the same command. -/
def place (spec : Spec) : List Spec → List Spec
  | [] => [spec]
  | other :: rest =>
      if spec.command = other.command then spec :: rest
      else if spec.command.le other.command then spec :: other :: rest
      else other :: place spec rest

def insert (registry : Registry) (spec : Spec) : Registry := ⟨place spec registry.specs⟩

theorem find?_place (spec : Spec) (specs : List Spec) (command : Text) :
    (place spec specs).find? (fun other => other.command = command) =
      if spec.command = command then some spec
      else specs.find? fun other => other.command = command := by
  induction specs with
  | nil => by_cases same : spec.command = command <;> simp [place, same]
  | cons other rest inductionHypothesis =>
      simp only [place]
      split
      next replaced =>
        by_cases same : spec.command = command
        · simp [same]
        · simp [same, ← replaced]
      · split
        · by_cases same : spec.command = command <;> simp [same]
        · by_cases same : spec.command = command <;>
            by_cases first : other.command = command <;> simp_all

/-- A command has the specification that was inserted last. -/
theorem find?_insert (registry : Registry) (spec : Spec) (command : Text) :
    (registry.insert spec).find? command =
      if spec.command = command then some spec else registry.find? command :=
  find?_place spec registry.specs command

def erase (registry : Registry) (command : Text) : Registry :=
  ⟨registry.specs.filter fun spec => spec.command ≠ command⟩

theorem find?_erase (registry : Registry) (erased command : Text) :
    (registry.erase erased).find? command =
      if erased = command then none else registry.find? command := by
  simp only [erase, find?, List.find?_filter]
  split
  next same =>
    rw [List.find?_eq_none]
    simp [same]
  next other =>
    congr 1
    funext spec
    by_cases found : spec.command = command
    · simp [found, Ne.symm other]
    · simp [found]

def commands (registry : Registry) : List Text := registry.specs.map Spec.command

/-- The commands that start with the given text, in order. -/
def commandsFrom (registry : Registry) (head : Text) : List Text :=
  registry.commands.filter fun command => command.startsWith head

end Registry

end Promptline
