/-
This file defines the tree of files that programs see, and how a path leads to a place in it.
-/

import Promptline.Text.Bytes

namespace Promptline

/-- The names on the way from the root to a place. -/
abbrev Place := List Text

/-- What stands at a place. The contents of files are in bytewise form. -/
inductive Node where
  | directory
  | file (content : Text)
  | program
  /-- A device is a well of bytes or a sink for them. -/
  | device (name : Text)
  | link (target : Place)
  deriving DecidableEq, Repr

/-- Why a path leads nowhere. -/
inductive PathFault where
  | absent
  | denied
  | exists_
  | notDirectory
  | isDirectory
  | nameTooLong
  deriving DecidableEq, Repr

namespace PathFault

def number : PathFault → Nat
  | absent => 2
  | denied => 13
  | exists_ => 17
  | notDirectory => 20
  | isDirectory => 21
  | nameTooLong => 36

def description : PathFault → Text
  | absent => Text.of "No such file or directory"
  | denied => Text.of "Permission denied"
  | exists_ => Text.of "File exists"
  | notDirectory => Text.of "Not a directory"
  | isDirectory => Text.of "Is a directory"
  | nameTooLong => Text.of "File name too long"

end PathFault

namespace Place

/-- The slashes of a path separate its names. One at the end stands for the directory itself. -/
def names (path : Text) : List Text :=
  (Text.pieces (· = '/') path).filter (· ≠ []) ++
    (if path.getLast? = some '/' then [['.']] else [])

/-- The path from the root. -/
def path (place : Place) : Text :=
  if place = [] then ['/'] else place.flatMap fun name => '/' :: name

end Place

/-- The tree in its present state: changes are laid over the nodes that stand from the start. -/
structure FileTree where
  standing : Place → Option Node
  standingNames : Place → List Text
  changes : List (Place × Option Node)

namespace FileTree

def node? (tree : FileTree) (place : Place) : Option Node :=
  match tree.changes.find? fun change => change.1 = place with
  | some (_, node?) => node?
  | none => if place = [] then some .directory else tree.standing place

def put (tree : FileTree) (place : Place) (node : Node) : FileTree :=
  { tree with changes := (place, some node) :: tree.changes }

def remove (tree : FileTree) (place : Place) : FileTree :=
  { tree with changes := (place, none) :: tree.changes }

/-- The names in a directory, in order. -/
def names (tree : FileTree) (place : Place) : List Text :=
  let changed := tree.changes.filterMap fun change =>
    if change.1.dropLast = place then change.1.getLast? else none
  let present := (tree.standingNames place ++ changed).filter fun name =>
    (tree.node? (place ++ [name])).isSome
  present.eraseDups.mergeSort Text.le

/-- The longest name and the longest path that can be looked up. -/
def longestName : Nat := 255
def longestPath : Nat := 4095

/-- The place that names lead to from a place. The last one need not stand for anything yet. -/
def walk (tree : FileTree) (place : Place) : List Text → Except PathFault Place
  | [] => .ok place
  | name :: rest =>
      match tree.node? place with
      | some .directory =>
          if name = ['.'] then tree.walk place rest
          else if name = ['.', '.'] then tree.walk place.dropLast rest
          else if longestName < name.length then .error .nameTooLong
          else match tree.node? (place ++ [name]) with
            | some (.link target) => tree.walk target rest
            | some _ => tree.walk (place ++ [name]) rest
            | none => if rest = [] then .ok (place ++ [name]) else .error .absent
      | _ => .error .notDirectory

/-- The place of a path, which starts at the root or at the given directory. -/
def place (tree : FileTree) (directory : Place) (path : Text) : Except PathFault Place :=
  if path = [] then .error .absent
  else if longestPath < path.length then .error .nameTooLong
  else tree.walk (if path.head? = some '/' then [] else directory) (Place.names path)

/-- The place and the node of a path that leads to something. -/
def find (tree : FileTree) (directory : Place) (path : Text) : Except PathFault (Place × Node) := do
  let place ← tree.place directory path
  match tree.node? place with
  | some node => return (place, node)
  | none => throw .absent

/-- The content of a file, and of a device from which nothing can be read. -/
def read (tree : FileTree) (directory : Place) (path : Text) : Except PathFault Text := do
  match (← tree.find directory path).2 with
  | .file content => return content
  | .directory => throw .isDirectory
  | _ => return []

end FileTree

end Promptline
