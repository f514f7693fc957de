/-
This file splits an expanded word into fields at the characters of a separator variable. Only what
has come from outside of quotes is split.
-/

import Promptline.Text.Bytes

namespace Promptline.Shell

/-- A character of an expanded word, or a place where quotes stood. -/
inductive Glyph where
  | char (c : Char) (quoted : Bool)
  | quote
  deriving DecidableEq, Repr

inductive Segment where
  | fixed (glyphs : List Glyph)
  /-- A segment that is split. The zero character separates arguments, and in a segment of arguments
  in quotes nothing else does. -/
  | loose (argumentsOnly : Bool) (glyphs : List Glyph)
  deriving DecidableEq, Repr

namespace Glyph

def ofText (quoted : Bool) (text : Text) : List Glyph := text.map fun c => .char c quoted

def char? : Glyph → Option Char
  | char c _ => some c
  | quote => none

/-- The text without what only quotes leave behind. -/
def toText (glyphs : List Glyph) : Text := glyphs.filterMap char?

/-- The text as a pattern, in which quoted characters stand for themselves. -/
def toPattern (glyphs : List Glyph) : Text :=
  glyphs.flatMap fun
    | char c true => ['\\', c]
    | char c false => [c]
    | quote => []

end Glyph

namespace Segment

def glyphs : Segment → List Glyph
  | fixed glyphs => glyphs
  | loose _ glyphs => glyphs

def isBlank (c : Char) : Bool := c = ' ' || c = '\t' || c = '\n' || c = '\x00'

/-- The finished fields and the open one, both in reverse. -/
structure Fields where
  finished : List (List Glyph)
  open_ : List Glyph
  deriving DecidableEq, Repr

/-- What of the separators has been read. -/
inductive Stage where
  | inside
  /-- Separators follow a blank or another separator, of which there may be one. -/
  | behind (mayFollow : Bool)
  deriving DecidableEq, Repr

def Fields.close (fields : Fields) : Fields := ⟨fields.open_ :: fields.finished, []⟩

/-- A segment is split. Blanks at the start of a field are passed over, and blanks around another
separator belong to it. -/
def split (separators : Text) : Stage → List Glyph → Fields → Fields
  | _, [], fields => fields
  | stage, glyph :: rest, fields =>
      let separator? := glyph.char?.filter fun c => separators.contains c || c = '\x00'
      match separator? with
      | none => split separators .inside rest { fields with open_ := glyph :: fields.open_ }
      | some c =>
          match stage with
          | .behind mayFollow =>
              if isBlank c then split separators stage rest fields
              else if mayFollow then split separators (.behind false) rest fields
              else split separators (.behind false) rest fields.close
          | .inside =>
              if isBlank c ∧ fields.open_ = [] then split separators .inside rest fields
              else split separators (.behind (isBlank c)) rest fields.close

/-- Every zero character ends a field. -/
def splitArguments : List Glyph → Fields → Fields
  | [], fields => fields
  | glyph :: rest, fields =>
      if glyph.char? = some '\x00' then splitArguments rest fields.close
      else splitArguments rest { fields with open_ := glyph :: fields.open_ }

/-- The fields of a word. An empty one at the end counts behind arguments in quotes. -/
def fields (separators : Text) (segments : List Segment) : List (List Glyph) :=
  let result := segments.foldl (fun (fields : Fields) segment =>
    match segment with
    | fixed glyphs => { fields with open_ := glyphs.reverse ++ fields.open_ }
    | loose true glyphs => splitArguments glyphs fields
    | loose false glyphs => split separators .inside glyphs fields) ⟨[], []⟩
  let lastLoose? := segments.reverse.findSome? fun
    | loose argumentsOnly _ => some argumentsOnly
    | fixed _ => none
  let result := if result.open_ = [] ∧ lastLoose? ≠ some true then result else result.close
  result.finished.reverse.map List.reverse

end Segment

end Promptline.Shell
