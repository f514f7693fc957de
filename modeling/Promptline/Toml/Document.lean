/-
This file reads a TOML document. A line end outside brackets ends a statement, and statements are
either headers or keys with their values.
-/

import Promptline.Toml.Statement

namespace Promptline.Toml

/-- The statements of a document, with the open one in reverse. -/
def statementsFrom (depth : Nat) (held : List Token) : List Token → List (List Token)
  | [] => [held.reverse]
  | token :: rest =>
      match token with
      | .newline =>
          if depth = 0 then held.reverse :: statementsFrom 0 [] rest
          else statementsFrom depth (token :: held) rest
      | .openSquare | .openCurly => statementsFrom (depth + 1) (token :: held) rest
      | .closeSquare | .closeCurly => statementsFrom (depth - 1) (token :: held) rest
      | _ => statementsFrom depth (token :: held) rest

def statements (tokens : List Token) : List (List Token) := statementsFrom 0 [] tokens

def isBlankToken : Token → Bool
  | .space _ => true
  | _ => false

/-- Blanks at both ends have no meaning. -/
def trimmed (tokens : List Token) : List Token :=
  ((tokens.dropWhile isBlankToken).reverse.dropWhile isBlankToken).reverse

inductive Statement where
  | header (path : List Text)
  | appendHeader (path : List Text)
  | pair (path : List Text) (value : Toml)

/-- Double brackets stand without a blank between them. -/
def statement? (tokens : List Token) : Option Statement :=
  match tokens with
  | .openSquare :: .openSquare :: rest =>
      match rest.reverse with
      | .closeSquare :: .closeSquare :: path => (headerPath? path.reverse).map .appendHeader
      | _ => none
  | .openSquare :: rest =>
      match rest.reverse with
      | .closeSquare :: path => (headerPath? path.reverse).map .header
      | _ => none
  | tokens => (pair? tokens).map fun (path, value) => .pair path value

/-- The document so far and the path of the last header. -/
structure Builder where
  entries : Entries
  path : List Text

def Builder.step? (builder : Builder) : Statement → Option Builder
  | .header path => do return ⟨← Entries.define? path builder.entries, path⟩
  | .appendHeader path => do return ⟨← Entries.append? path builder.entries, path⟩
  | .pair path value => do
      return { builder with
        entries := ← Entries.within? (Entries.insert? value path) builder.path builder.entries }

/-- The entries of a document. -/
def parse? (text : Text) : Option Entries := do
  let written := ((statements (← tokens? text)).map trimmed).filter fun tokens => !tokens.isEmpty
  let builder ← (← written.mapM statement?).foldlM Builder.step? ⟨[], []⟩
  return builder.entries

end Promptline.Toml
