/-
This file defines the programs that list, make, move and remove files.
-/

import Promptline.Program.Tool.Paths

namespace Promptline.Tool

/-- The tree without a place and all that is below it. -/
def removeBelow : Nat → Place → FileTree → FileTree
  | 0, _, files => files
  | fuel + 1, place, files =>
      ((files.names place).foldl (fun files name => removeBelow fuel (place ++ [name]) files)
        files).remove place

/-- The tree with a copy of a place and of all that is below it. -/
def copyBelow : Nat → Place → Place → FileTree → FileTree
  | 0, _, _, files => files
  | fuel + 1, place, target, files =>
      match files.node? place with
      | none => files
      | some node =>
          let names := if node = .directory then files.names place else []
          names.foldl (fun files name =>
            copyBelow fuel (place ++ [name]) (target ++ [name]) files) (files.put target node)

/-- Directories are nested at most so deeply. -/
def deepestDirectory : Nat := 64

/-- What a program says about a path that it cannot change. -/
def changeComplaint (program : String) (path : Text) (fault : PathFault) : Text :=
  let described (before : String) (shown : Text) : Text :=
    Text.of before ++ shown ++ Text.of ": " ++ fault.description
  match program, fault with
  | "mkdir", _ => described "cannot create directory " (quoted path)
  | "mkfifo", _ => described "cannot create fifo " (quotedPath path)
  | "rmdir", .exists_ =>
      Text.of "failed to remove " ++ quotedPath path ++ Text.of ": Directory not empty"
  | "rmdir", _ => described "failed to remove " (quotedPath path)
  | "rm", _ => described "cannot remove " (quotedPath path)
  | "touch", _ => described "cannot touch " (quotedPath path)
  | "unlink", _ => described "cannot unlink " (quotedPath path)
  | "chmod", _ => described "cannot access " (quotedPath path)
  | "ln", .absent => described "failed to access " (quotedPath path)
  | "ls", _ => described "cannot access " (quotedPath path)
  | "cp", .isDirectory => Text.of "-r not specified; omitting directory " ++ quotedPath path
  | _, _ => described "cannot stat " (quotedPath path)

/-- A change for each path, where a fault is reported. The code tells whether there was one. -/
def changeEach (program : String) (paths : List Text)
    (change : FileTree → Place → Text → Except PathFault FileTree) : Work Nat := do
  let mut complete := true
  for path in paths do
    match change (← getThe Machine).files (← read).directory path with
    | .ok files => Work.changeFiles fun _ => files
    | .error fault =>
        complete := (← fail program (changeComplaint program path fault) 1) = 0
  return codeOf complete

/-- A path to a directory that cannot be made because something is there. -/
def makeDirectory (withParents : Bool) (files : FileTree) (directory : Place) (path : Text) :
    Except PathFault FileTree := do
  if withParents then
    let start := if path.head? = some '/' then [] else directory
    let (files, _) ← (Place.names path).foldlM (fun (files, place) name => do
      let place ← files.walk place [name]
      match files.node? place with
      | none => return (files.put place .directory, place)
      | some .directory => return (files, place)
      | some _ => throw .exists_) (files, start)
    return files
  else
    let place ← files.place directory (if path = ['/'] then path else withoutLastSlashes path)
    if (files.node? place).isSome then throw .exists_
    return files.put place .directory

def mkdir : Tool :=
  withOptions "mkdir" ⟨['p', 'v'], ['m'], [("parents", 'p'), ("mode", 'm')]⟩ 1 fun given => do
    if given.operands = [] then return ← missingOperand "mkdir" 1
    changeEach "mkdir" given.operands (makeDirectory (given.has 'p'))

/-- Only a directory without anything in it is removed. -/
def rmdir : Tool :=
  withOptions "rmdir" ⟨['p', 'v'], [], [("ignore-fail-on-non-empty", 'i')]⟩ 1 fun given => do
    if given.operands = [] then return ← missingOperand "rmdir" 1
    changeEach "rmdir" given.operands fun files directory path => do
      let (place, node) ← files.find directory path
      if node ≠ .directory then throw .notDirectory
      if files.names place ≠ [] then throw .exists_
      return files.remove place

/-- The place of an entry itself, also if it is a link to another one. -/
def entry (files : FileTree) (directory : Place) (path : Text) :
    Except PathFault (Place × Node) := do
  let names := Place.names path
  let start := if path.head? = some '/' then [] else directory
  let parent ← files.walk start names.dropLast
  match names.getLast? with
  | some name =>
      if (files.node? parent) = some .directory then
        match files.node? (parent ++ [name]) with
        | some (.link target) => return (parent ++ [name], .link target)
        | _ => files.find directory path
      else throw .notDirectory
  | none => files.find directory path

def rm : Tool :=
  withOptions "rm" ⟨"firRdvI".toList, [],
    [("force", 'f'), ("recursive", 'r'), ("dir", 'd'), ("verbose", 'v')]⟩ 1 fun given => do
      let recursive := given.has 'r' || given.has 'R'
      if given.operands = [] then
        if given.has 'f' then return 0
        return ← missingOperand "rm" 1
      changeEach "rm" given.operands fun files directory path =>
        match entry files directory path with
        | .error .absent | .error .notDirectory =>
            if given.has 'f' then .ok files else .error .absent
        | .error fault => .error fault
        | .ok (place, .directory) =>
            let isOwn := ['.', '/'].contains ((withoutLastSlashes path).getLast?.getD '/')
            if isOwn then .error .isDirectory
            else if recursive then .ok (removeBelow deepestDirectory place files)
            else if given.has 'd' ∧ files.names place = [] then .ok (files.remove place)
            else .error .isDirectory
        | .ok (place, _) => .ok (files.remove place)

def unlink : Tool := withOptions "unlink" ⟨[], [], []⟩ 1 fun given => do
  match given.operands with
  | [] => return ← missingOperand "unlink" 1
  | [_] => pure ()
  | _ :: extra :: _ => return ← extraOperand "unlink" extra 1
  changeEach "unlink" given.operands fun files directory path => do
    match ← entry files directory path with
    | (_, .directory) => throw .isDirectory
    | (place, _) => return files.remove place

/-- A file is made if there is none. -/
def touch : Tool :=
  withOptions "touch" ⟨"acfhm".toList, "drt".toList, [("no-create", 'c'), ("date", 'd')]⟩ 1
    fun given => do
      if given.operands = [] then
        return ← refuse "touch" (Text.of "missing file operand") 1
      changeEach "touch" given.operands fun files directory path => do
        let place ← files.place directory path
        if (files.node? place).isSome then return files
        if path.getLast? = some '/' then throw .absent
        if given.has 'c' then return files
        return files.put place (.file [])

/-- The place that a file gets in a directory, or under a new name. -/
def targetOf (files : FileTree) (directory : Place) (path target : Text) :
    Except PathFault Place := do
  let place ← files.place directory target
  match files.node? place with
  | some .directory => return place ++ [lastName path]
  | _ => return place

/-- Several files can only go to a directory. -/
def hasPlaceForAll (files : FileTree) (directory : Place) (sources : List Text) (target : Text) :
    Bool :=
  sources.length = 1 || match files.find directory target with
    | .ok (_, .directory) => true
    | _ => false

/-- A target is missing, or a source. -/
def missingTarget (program : String) (given : Given) : Work Nat :=
  match given.operands with
  | [] => refuse program (Text.of "missing file operand") 1
  | path :: _ =>
      refuse program (Text.of "missing destination file operand after " ++ quotedPath path) 1

/-- The sources and the target of files to move or copy. -/
def sourcesAndTarget? (given : Given) : Option (List Text × Text) :=
  match given.value? 't' with
  | some target => if given.operands = [] then none else some (given.operands, target)
  | none =>
      match given.operands.getLast? with
      | some target =>
          if given.operands.length < 2 then none else some (given.operands.dropLast, target)
      | none => none

def cp : Tool :=
  withOptions "cp" ⟨"abdfiHlLnPpRrsTuvx".toList, ['S', 't'],
    [("recursive", 'r'), ("archive", 'a'), ("force", 'f'), ("no-clobber", 'n'),
      ("target-directory", 't')]⟩ 1 fun given => do
      let recursive := ['r', 'R', 'a'].any given.has
      match sourcesAndTarget? given with
      | none => missingTarget "cp" given
      | some (sources, target) => do
          if !hasPlaceForAll (← getThe Machine).files (← read).directory sources target then
            return ← fail "cp" (Text.of "target " ++ quotedPath target ++
              Text.of ": No such file or directory") 1
          changeEach "cp" sources fun files directory path => do
            let (place, node) ← files.find directory path
            let goal ← targetOf files directory path target
            if node = .directory ∧ !recursive then throw .isDirectory
            if goal = place ∨ (node = .directory ∧ place.isPrefixOf goal) then throw .exists_
            if given.has 'n' ∧ (files.node? goal).isSome then return files
            match node, files.node? goal with
            | .directory, some (.file _) => throw .notDirectory
            | .directory, _ => return copyBelow deepestDirectory place goal files
            | _, some .directory => throw .isDirectory
            | .file content, _ => return files.put goal (.file content)
            | .device _, some (.device _) => return files
            | .device _, _ => return files.put goal (.file [])
            | other, _ => return files.put goal other

def mv : Tool :=
  withOptions "mv" ⟨"bfinTuv".toList, ['S', 't'], [("force", 'f'), ("no-clobber", 'n')]⟩ 1
    fun given => do
      match sourcesAndTarget? given with
      | none => missingTarget "mv" given
      | some (sources, target) => do
          if !hasPlaceForAll (← getThe Machine).files (← read).directory sources target then
            return ← fail "mv" (Text.of "target " ++ quotedPath target ++
              Text.of ": No such file or directory") 1
          changeEach "mv" sources fun files directory path => do
            let (place, node) ← entry files directory path
            let goal ← targetOf files directory path target
            if goal = place ∨ (node = .directory ∧ place.isPrefixOf goal) then throw .exists_
            if given.has 'n' ∧ (files.node? goal).isSome then return files
            match node, files.node? goal with
            | .directory, some (.file _) => throw .notDirectory
            | .directory, _ =>
                return removeBelow deepestDirectory place
                  (copyBelow deepestDirectory place goal files)
            | _, some .directory => throw .isDirectory
            | other, _ => return (files.remove place).put goal other

/-- A link leads to another place. -/
def ln : Tool :=
  withOptions "ln" ⟨"sfnvTr".toList, ['t'], [("symbolic", 's'), ("force", 'f')]⟩ 1 fun given => do
    match given.operands with
    | [source, target] =>
        changeEach "ln" [source] fun files directory path => do
          let goal ← targetOf files directory path target
          if (files.node? goal).isSome ∧ !given.has 'f' then throw .exists_
          if given.has 's' then
            let start := if path.head? = some '/' then [] else goal.dropLast
            return files.put goal (.link (← files.walk start (Place.names path)))
          match ← files.find directory path with
          | (_, .directory) => throw .denied
          | (_, node) => return files.put goal node
    | _ => missingTarget "ln" given

/-- Rights are octal digits, or letters with an operator between them. -/
def isMode (mode : Text) : Bool :=
  let isClause (clause : Text) : Bool :=
    let rest := clause.dropWhile "ugoa".toList.contains
    rest.head?.any ['+', '-', '='].contains &&
      (rest.drop 1).all "rwxXstugo+-=".toList.contains
  mode ≠ [] && (mode.all (fun c => '0' ≤ c && c ≤ '7') || (Text.pieces (· = ',') mode).all isClause)

/-- A named pipe is made where nothing is. -/
def mkfifo : Tool := withOptions "mkfifo" ⟨[], ['m'], [("mode", 'm')]⟩ 1 fun given => do
  if given.operands = [] then return ← missingOperand "mkfifo" 1
  changeEach "mkfifo" given.operands fun files directory path => do
    let place ← files.place directory path
    if (files.node? place).isSome then throw .exists_
    return files.put place (.device (Text.of "pipe"))

/-- Rights are not kept, so only missing files are faults. -/
def chmod : Tool := fun arguments => do
  let operands := arguments.filter fun word => word ≠ Text.of "-R" && word ≠ Text.of "-f"
  match operands with
  | [] => return ← missingOperand "chmod" 1
  | [mode] => return ← refuse "chmod" (Text.of "missing operand after " ++ quoted mode) 1
  | mode :: _ =>
      if !isMode mode then
        return ← refuse "chmod" (Text.of "invalid mode: " ++ quoted mode) 1
  changeEach "chmod" (operands.drop 1) fun files directory path =>
    (files.find directory path).map fun _ => files

/-- A name with the mark of its kind. -/
def markedName (given : Given) (files : FileTree) (place : Place) (name : Text) : Text :=
  let classifies := given.has 'F'
  match files.node? place with
  | some .directory => if classifies ∨ given.has 'p' then name ++ ['/'] else name
  | some .program => if classifies then name ++ ['*'] else name
  | some (.link _) => if classifies then name ++ ['@'] else name
  | _ => name

/-- The names in a directory that are shown. -/
def shownNames (given : Given) (files : FileTree) (place : Place) : List Text :=
  let names := (files.names place).filter fun name =>
    given.has 'a' || given.has 'A' || name.head? ≠ some '.'
  let all := if given.has 'a' then [['.'], ['.', '.']] ++ names else names
  (if given.has 'r' then all.reverse else all).map fun name =>
    if name = ['.'] ∨ name = ['.', '.'] then
      (if given.has 'F' ∨ given.has 'p' then name ++ ['/'] else name)
    else markedName given files (place ++ [name]) name

/-- The directories below a place that are shown, each behind the one it is in. -/
def listedBelow (given : Given) (files : FileTree) : Nat → Place → Text → List (Text × Place)
  | 0, _, _ => []
  | fuel + 1, place, path =>
      (path, place) :: (files.names place).flatMap fun name =>
        let shows := given.has 'a' || given.has 'A' || name.head? ≠ some '.'
        if shows ∧ files.node? (place ++ [name]) = some .directory then
          listedBelow given files fuel (place ++ [name])
            (if path = ['/'] then '/' :: name else path ++ '/' :: name)
        else []

def listOptions : Options :=
  ⟨"aAbBcCdfFghHiklLmnNopqQrRsStuUvxXZ1G".toList, "ITw".toList,
    [("all", 'a'), ("almost-all", 'A'), ("directory", 'd'), ("classify", 'F'), ("reverse", 'r'),
      ("recursive", 'R')]⟩

/-- The names in directories and those of other files. -/
def ls : Tool := withOptions "ls" listOptions 2 fun given => do
  let paths := if given.operands = [] then [['.']] else given.operands.mergeSort Text.le
  let paths := if given.has 'r' then paths.reverse else paths
  let files := (← getThe Machine).files
  let directory := (← read).directory
  let found := paths.map fun path => (path, files.find directory path)
  for (path, result) in found do
    match result with
    | .error fault => discard (fail "ls" (changeComplaint "ls" path fault) 2)
    | .ok _ => pure ()
  let present := found.filterMap fun (path, result) =>
    (result.toOption).map fun (place, node) => (path, place, node)
  let isListed (node : Node) : Bool := node = .directory && !given.has 'd'
  let single := present.filter fun (_, _, node) => !isListed node
  let listed := (present.filter fun (_, _, node) => isListed node).flatMap fun (path, place, _) =>
    if given.has 'R' then listedBelow given files deepestDirectory place path
    else [(path, place)]
  let showsHeading := 1 < paths.length || given.has 'R'
  let lines (names : List Text) : Text := names.flatMap fun name => name ++ ['\n']
  let front := lines (single.map fun (path, place, _) => markedName given files place path)
  let blocks := listed.map fun (path, place) =>
    (if showsHeading then path ++ [':', '\n'] else []) ++ lines (shownNames given files place)
  discard (Work.put (Text.join ['\n'] ((if front = [] then [] else [front]) ++ blocks)))
  return if present.length = found.length then 0 else 2

end Promptline.Tool
