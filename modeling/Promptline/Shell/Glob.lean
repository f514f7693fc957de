/-
This file finds the paths that a pattern matches.
-/

import Promptline.Program.FileTree
import Promptline.Shell.Pattern
import Promptline.Shell.Splitting

namespace Promptline.Shell.Glob

/-- A glyph that can begin an item other than a character. -/
def isMark : Glyph → Bool
  | .char c false => c = '*' || c = '?' || c = '['
  | _ => false

/-- Something in the glyphs is more than text. A bracket that is never closed is text. -/
def isSpecial (glyphs : List Glyph) : Bool :=
  glyphs.any isMark && (Pattern.ofText (Glyph.toPattern glyphs)).any fun
    | .char _ => false
    | _ => true

/-- The glyphs between slashes. -/
def components : List Glyph → List (List Glyph)
  | [] => [[]]
  | glyph :: rest =>
      if glyph.char? = some '/' then [] :: components rest
      else match components rest with
        | [] => [[glyph]]
        | first :: others => (glyph :: first) :: others

/-- The names that a component stands for. Hidden names have to be asked for. -/
def names (tree : FileTree) (place : Place) (component : List Glyph) : List Text :=
  let pattern := Pattern.ofText (Glyph.toPattern component)
  if isSpecial component then
    let showsHidden := pattern.head? = some (.char '.')
    (tree.names place).filter fun name =>
      (name.head? ≠ some '.' || showsHidden) && pattern.accepts name
  else [Glyph.toText component]

/-- The paths that the components lead to, behind the path so far. -/
def paths (tree : FileTree) (directory : Place) (soFar : Text) : List (List Glyph) → List Text
  | [] => []
  | [last] =>
      let place? := tree.place directory (if soFar = [] then ['.'] else soFar)
      match place? with
      | .error _ => []
      | .ok place =>
          if last = [] then [soFar]
          else ((names tree place last).filter fun name =>
            (tree.find place name).toOption.isSome).map fun name => soFar ++ name
  | first :: rest =>
      match tree.place directory (if soFar = [] then ['.'] else soFar) with
      | .error _ => []
      | .ok place =>
          if first = [] then paths tree directory (soFar ++ ['/']) rest
          else (names tree place first).flatMap fun name =>
            match tree.find place name with
            | .ok (_, .directory) => paths tree directory (soFar ++ name ++ ['/']) rest
            | _ => []

/-- A field without a match stays as it is. -/
def expand (tree : FileTree) (directory : Place) (glyphs : List Glyph) : List Text :=
  if isSpecial glyphs then
    match paths tree directory [] (components glyphs) with
    | [] => [Glyph.toText glyphs]
    | found => found
  else [Glyph.toText glyphs]

end Promptline.Shell.Glob
