/-
This file finds programs by their names: a path leads to a program itself, and another name is
looked for in the directories of a list.
-/

import Promptline.Program.FileTree

namespace Promptline.Lookup

/-- A path has a slash, and a plain name has none. -/
def isPath (name : Text) : Bool := name.contains '/'

/-- The program at a path. What is no program cannot be run. -/
def atPath (tree : FileTree) (directory : Place) (path : Text) : Except PathFault Place := do
  match ← tree.find directory path with
  | (place, .program) => return place
  | _ => throw .denied

/-- The path of a name in a directory of the list. -/
def candidate (directory name : Text) : Text :=
  if directory = [] then name else directory ++ '/' :: name

/-- The first program of a name in a list of directories, with its path. A fault other than that
nothing is there is kept in mind. -/
def inList (tree : FileTree) (directory : Place) (name : Text) (fault : PathFault) :
    List Text → Except PathFault (Text × Place)
  | [] => .error fault
  | first :: rest =>
      let path := candidate first name
      match atPath tree directory path with
      | .ok place => .ok (path, place)
      | .error .absent | .error .notDirectory => inList tree directory name fault rest
      | .error other => inList tree directory name other rest

/-- The program of a name, with the path that leads to it. -/
def find (tree : FileTree) (directory : Place) (searchPath name : Text) :
    Except PathFault (Text × Place) :=
  if isPath name then (atPath tree directory name).map fun place => (name, place)
  else if name = [] then .error .absent
  else if FileTree.longestName < name.length then .error .nameTooLong
  else inList tree directory name .absent (Text.pieces (· = ':') searchPath)

end Promptline.Lookup
