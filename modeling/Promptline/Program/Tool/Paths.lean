/-
This file defines the programs that take paths apart and resolve them.
-/

import Promptline.Program.Tool.Options

namespace Promptline.Tool

def withoutLastSlashes (path : Text) : Text := (path.reverse.dropWhile (· = '/')).reverse

/-- The last name of a path. -/
def lastName (path : Text) : Text :=
  let trimmed := withoutLastSlashes path
  if trimmed = [] then path.take 1 else (trimmed.reverse.takeWhile (· ≠ '/')).reverse

/-- A name without an ending, unless the name consists of the ending alone. -/
def withoutEnding (ending name : Text) : Text :=
  if ending ≠ name ∧ ending.isSuffixOf name then name.take (name.length - ending.length) else name

/-- The path of the directory that a name is in. -/
def directoryName (path : Text) : Text :=
  let trimmed := withoutLastSlashes path
  let head := (trimmed.reverse.dropWhile (· ≠ '/')).reverse
  if trimmed = [] then (if path = [] then ['.'] else ['/'])
  else if head = [] then ['.']
  else if withoutLastSlashes head = [] then ['/'] else withoutLastSlashes head

/-- The last names of paths. An ending can be cut off from one path. -/
def basename : Tool :=
  withOptions "basename" ⟨['a', 'z'], ['s'], [("multiple", 'a'), ("suffix", 's'), ("zero", 'z')]⟩ 1
    fun given => do
      let end_ := if given.has 'z' then '\x00' else '\n'
      let names (ending : Text) (paths : List Text) : Text := paths.flatMap fun path =>
        withoutEnding ending (lastName path) ++ [end_]
      if given.has 'a' ∨ given.has 's' then
        if given.operands = [] then return ← missingOperand "basename" 1
        Work.put (names ((given.value? 's').getD []) given.operands)
      else match given.operands with
        | [path] => Work.put (names [] [path])
        | [path, ending] => Work.put (names ending [path])
        | [] => missingOperand "basename" 1
        | _ :: _ :: extra :: _ => extraOperand "basename" extra 1

/-- The directories of paths. -/
def dirname : Tool := withOptions "dirname" ⟨['z'], [], [("zero", 'z')]⟩ 1 fun given => do
  let end_ := if given.has 'z' then '\x00' else '\n'
  if given.operands = [] then return ← missingOperand "dirname" 1
  Work.put (given.operands.flatMap fun path => directoryName path ++ [end_])

/-- The place that a path leads to, whose last part may be missing unless it has to be there. -/
def resolve (given : Given) (path : Text) : Work (Except PathFault Place) := do
  let directory := (← read).directory
  let files := (← getThe Machine).files
  if given.has 'e' then return (files.find directory path).map Prod.fst
  if given.has 'm' then
    return .ok ((Place.names path).foldl (fun place name =>
      if name = ['.'] then place
      else if name = ['.', '.'] then place.dropLast else place ++ [name])
      (if path.head? = some '/' then [] else directory))
  return files.place directory path

/-- The resolved paths. -/
def realpath : Tool :=
  withOptions "realpath" ⟨"emqszLP".toList, [],
    [("canonicalize-existing", 'e'), ("canonicalize-missing", 'm'), ("quiet", 'q'),
      ("no-symlinks", 's'), ("strip", 's'), ("zero", 'z'), ("logical", 'L'),
      ("physical", 'P')]⟩ 1 fun given => do
        let end_ := if given.has 'z' then '\x00' else '\n'
        if given.operands = [] then return ← missingOperand "realpath" 1
        let mut complete := true
        for path in given.operands do
          match ← resolve given path with
          | .ok place => discard (Work.put (place.path ++ [end_]))
          | .error fault =>
              complete := false
              if !given.has 'q' then
                discard (fail "realpath" (readComplaint "realpath" path fault) 1)
        return codeOf complete

/-- Where links lead, or the resolved paths. -/
def readlink : Tool :=
  withOptions "readlink" ⟨"emfnqsvz".toList, [],
    [("canonicalize", 'f'), ("canonicalize-existing", 'e'), ("canonicalize-missing", 'm'),
      ("no-newline", 'n'), ("zero", 'z')]⟩ 1 fun given => do
        let end_ : Text :=
          if given.has 'n' ∧ given.operands.length = 1 then []
          else if given.has 'z' then ['\x00'] else ['\n']
        if given.operands = [] then return ← missingOperand "readlink" 1
        let mut complete := true
        for path in given.operands do
          if given.has 'f' ∨ given.has 'e' ∨ given.has 'm' then
            match ← resolve given path with
            | .ok place => discard (Work.put (place.path ++ end_))
            | .error _ => complete := false
          else
            let names := Place.names path
            let directory := (← read).directory
            let files := (← getThe Machine).files
            let start := if path.head? = some '/' then [] else directory
            match files.walk start names.dropLast, names.getLast? with
            | .ok place, some name =>
                match files.node? (place ++ [name]) with
                | some (.link target) =>
                    discard (Work.put (Text.join ['/'] target ++ end_))
                | _ => complete := false
            | _, _ => complete := false
        return codeOf complete

/-- Names that every system accepts. -/
def isPortableName (name : Text) : Bool :=
  name.all fun c => c.isAlphanum || c = '.' || c = '_' || c = '-'

/-- Whether paths could be used for files. -/
def pathchk : Tool :=
  withOptions "pathchk" ⟨['p', 'P'], [], [("portability", 'a')]⟩ 1 fun given => do
  if given.operands = [] then return ← missingOperand "pathchk" 1
  let isSound (path : Text) : Bool :=
    let names := Text.pieces (· = '/') path
    path ≠ [] && names.all (fun name => name.length ≤ if given.has 'p' then 14 else 255) &&
      path.length ≤ (if given.has 'p' then 255 else 4095) &&
      (!given.has 'p' || names.all isPortableName) &&
      (!given.has 'P' || names.all fun name => name.head? ≠ some '-')
  return if given.operands.all isSound then 0 else 1

/-- The path of the working directory. -/
def pwd : Tool := withOptions "pwd" ⟨['L', 'P'], [], [("logical", 'L'), ("physical", 'P')]⟩ 1
  fun given => do
    if given.operands ≠ [] then
      discard (fail "pwd" (Text.of "ignoring non-option arguments") 0)
    Work.put ((← read).directory.path ++ ['\n'])

end Promptline.Tool
