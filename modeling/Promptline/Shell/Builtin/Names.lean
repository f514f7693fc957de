/-
This file defines the builtins that tell what a name stands for, and those that change the
directory.
-/

import Promptline.Program.Lookup
import Promptline.Shell.Builtin.Options
import Promptline.Shell.Parser

namespace Promptline.Shell.Builtin

open Run

def regularNames : List String :=
  ["alias", "bg", "cd", "chdir", "command", "echo", "false", "fg", "getopts", "hash", "jobs",
    "kill", "printf", "pwd", "read", "test", "[", "true", "type", "ulimit", "umask", "unalias",
    "wait"]

/-- What a name stands for where a command starts. -/
inductive Meaning where
  | keyword
  | replacement (value : Text)
  | special
  | function
  | builtin
  | program (path : Text)
  | nothing
  deriving DecidableEq, Repr

def meaning (session : Session) (tree : FileTree) (name : Text) : Meaning :=
  let word := String.ofList name
  if (Token.keywords.map Prod.fst).contains word then .keyword
  else match session.aliases.lookup name with
    | some value => .replacement value
    | none =>
        if Grammar.specialBuiltins.contains word then .special
        else if (session.functions.lookup name).isSome then .function
        else if regularNames.contains word then .builtin
        else
          let searchPath := (session.value? (Text.of "PATH")).getD []
          match Lookup.find tree session.directory searchPath name with
          | .ok (path, _) => .program path
          | .error _ => .nothing

/-- The description of a name, short or long, and the status that goes with it. -/
def describe (long : Bool) (name : Text) (meaning : Meaning) : Text × Nat :=
  let whole (text : String) : Text × Nat := (name ++ Text.of text, 0)
  let (text, status) :=
    if long then
      match meaning with
      | .keyword => whole " is a shell keyword"
      | .replacement value => (name ++ Text.of " is an alias for " ++ value, 0)
      | .special => whole " is a special shell builtin"
      | .function => whole " is a shell function"
      | .builtin => whole " is a shell builtin"
      | .program path => (name ++ Text.of " is " ++ path, 0)
      | .nothing => (name ++ Text.of ": not found", 127)
    else
      match meaning with
      | .replacement value => (Text.of "alias " ++ name ++ '=' :: singleQuoted value, 0)
      | .program path => (path, 0)
      | .nothing => ([], 127)
      | _ => (name, 0)
  (if text = [] then [] else text ++ ['\n'], status)

def describeName (long : Bool) (name : Text) : Run Nat := do
  let (text, status) := describe long name (meaning (← session) (← machine).files name)
  discard (put text)
  return status

def type : Builtin := fun arguments => do
  let names ← operands arguments
  names.foldlM (fun status name => do return max status (← describeName true name)) 0

/-- The table of programs is always empty. -/
def hash : Builtin := fun arguments => do
  let (_, names) ← options ⟨['r', 'v'], []⟩ arguments
  names.foldlM (fun status name => do
    match meaning (← session) (← machine).files name with
    | .nothing => do
        complain (name ++ Text.of ": not found")
        return 1
    | _ => return status) 0

/-- Words are given other words to stand for. They are only listed again. -/
def setAlias : Builtin := fun arguments => do
  let line (name value : Text) : Text := name ++ '=' :: singleQuoted value ++ ['\n']
  if arguments = [] then
    put ((← session).aliases.flatMap fun (name, value) => line name value)
  else
    arguments.foldlM (fun status argument => do
      match Text.splitAt? '=' argument with
      | some (name, value) => do
          update fun session => { session with
            aliases := (name, value) :: session.aliases.filter fun other => other.1 ≠ name }
          return status
      | none =>
          match (← session).aliases.lookup argument with
          | some value => do
              discard (put (line argument value))
              return status
          | none => do
              complain (argument ++ Text.of " not found")
              return 1) 0

def unalias : Builtin := fun arguments => do
  let (found, names) ← options ⟨['a'], []⟩ arguments
  if found ≠ [] then update fun session => { session with aliases := [] }
  names.foldlM (fun status name => do
    let known := ((← session).aliases.lookup name).isSome
    update fun session => { session with
      aliases := session.aliases.filter fun other => other.1 ≠ name }
    if known then return status
    complain (name ++ Text.of " not found")
    return 1) 0

/-- Two slashes at the start of a path, and no third one, stay there. -/
def startsTwice (path : Text) : Bool := ['/', '/'].isPrefixOf path && path[2]? ≠ some '/'

/-- The path without dots, as the shell follows it. -/
def logicalPath (start path : Text) : Text :=
  let isAbsolute := path.head? = some '/'
  let first := if isAbsolute then [] else Place.names start
  let found := Place.path ((Place.names path).foldl (fun names name =>
    if name = ['.'] then names
    else if name = ['.', '.'] then names.dropLast
    else names ++ [name]) first)
  if startsTwice (if isAbsolute then path else start) then '/' :: found else found

/-- A path that tells where it starts is not searched for. -/
def startsSomewhere (path : Text) : Bool :=
  path.head? = some '/' || [['.'], ['.', '.']].contains (path.takeWhile (· ≠ '/'))

/-- The places where a directory may be, and whether the shell tells which one it is. -/
def cdCandidates (searchPath? : Option Text) (target : Text) : List (Text × Bool) :=
  match searchPath? with
  | none => [(target, false)]
  | some searchPath =>
      if startsSomewhere target then [(target, false)]
      else ((Text.pieces (· = ':') searchPath).map fun directory =>
        if directory = [] then (target, false) else (directory ++ '/' :: target, true)) ++
          [(target, false)]

def cd : Builtin := fun arguments => do
  let (_, rest) ← options ⟨['L', 'P'], []⟩ arguments
  let session ← session
  let goesBack := rest.head? = some ['-']
  let target :=
    match rest with
    | [] => (session.value? (Text.of "HOME")).getD []
    | ['-'] :: _ => (session.value? (Text.of "OLDPWD")).getD []
    | path :: _ => path
  let files := (← machine).files
  let found? := (cdCandidates (session.value? (Text.of "CDPATH")) target).findSome?
    fun (candidate, told) =>
      let path := logicalPath session.path candidate
      match files.find [] path with
      | .ok (place, .directory) => some (place, path, told)
      | _ => none
  match found? with
  | some (place, path, told) => do
      update fun session => { session with directory := place, path }
      let exported (name : String) (value : Text) : Run Unit := do
        assign (Text.of name) value
        update fun session => session.set (Text.of name) ⟨some value, true, false⟩
      exported "OLDPWD" session.path
      exported "PWD" path
      if goesBack || told then discard (put (path ++ ['\n']))
      return 0
  | none => fail (Text.of "can't cd to " ++ target)

def pwd : Builtin := fun arguments => do
  let (found, _) ← options ⟨['L', 'P'], []⟩ arguments
  let session ← session
  let physical := (found.map Prod.fst).getLast? = some 'P'
  put ((if physical then Place.path session.directory else session.path) ++ ['\n'])

end Promptline.Shell.Builtin
