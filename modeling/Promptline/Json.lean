/-
This file reads JSON values. The reader keeps the open containers on a stack, of which there are at
most 127, and takes every token once.
-/

import Promptline.Json.Token

namespace Promptline

/-- An object keeps its members in order, with repeated names. -/
inductive Json where
  | null
  | bool (value : Bool)
  | number (literal : Text)
  | string (value : Text)
  | array (items : List Json)
  | object (members : List (Text × Json))

namespace Json

/-- An open container holds what it has so far, in reverse. -/
inductive Container where
  | array (items : List Json)
  | object (members : List (Text × Json))
  | member (members : List (Text × Json)) (name : Text)

/-- What the next token may be. -/
inductive Expectation where
  | value
  | valueOrClose
  | name
  | nameOrClose
  | colon
  | commaOrClose
  | finished (value : Json)

structure Reader where
  stack : List Container
  expectation : Expectation

namespace Reader

/-- This many containers may be open at once. -/
def depthLimit : Nat := 127

def start : Reader := ⟨[], .value⟩

/-- A value goes into the innermost container, or is the result. -/
def deliver? (stack : List Container) (value : Json) : Option Reader :=
  match stack with
  | [] => some ⟨[], .finished value⟩
  | .array items :: outer => some ⟨.array (value :: items) :: outer, .commaOrClose⟩
  | .member members name :: outer =>
      some ⟨.object ((name, value) :: members) :: outer, .commaOrClose⟩
  | .object _ :: _ => none

def enter? (stack : List Container) (container : Container) (expectation : Expectation) :
    Option Reader :=
  if stack.length < depthLimit then some ⟨container :: stack, expectation⟩ else none

/-- A value is one token or opens a container. -/
def value? (stack : List Container) : Token → Option Reader
  | .null => deliver? stack .null
  | .bool value => deliver? stack (.bool value)
  | .number literal => deliver? stack (.number literal)
  | .string value => deliver? stack (.string value)
  | .openArray => enter? stack (.array []) .valueOrClose
  | .openObject => enter? stack (.object []) .nameOrClose
  | _ => none

/-- The innermost container is complete. -/
def close? (stack : List Container) (token : Token) : Option Reader :=
  match stack, token with
  | .array items :: outer, .closeArray => deliver? outer (.array items.reverse)
  | .object members :: outer, .closeObject => deliver? outer (.object members.reverse)
  | _, _ => none

def name? (stack : List Container) (token : Token) : Option Reader :=
  match stack, token with
  | .object members :: outer, .string name => some ⟨.member members name :: outer, .colon⟩
  | _, _ => none

def step? (reader : Reader) (token : Token) : Option Reader :=
  match reader.expectation with
  | .value => value? reader.stack token
  | .valueOrClose => (close? reader.stack token).or (value? reader.stack token)
  | .name => name? reader.stack token
  | .nameOrClose => (close? reader.stack token).or (name? reader.stack token)
  | .colon => if token = .colon then some { reader with expectation := .value } else none
  | .commaOrClose =>
      if token = .comma then
        match reader.stack with
        | .object _ :: _ => some { reader with expectation := .name }
        | _ => some { reader with expectation := .value }
      else close? reader.stack token
  | .finished _ => none

end Reader

/-- The value that the whole text stands for. -/
def parse? (text : Text) : Option Json := do
  let reader ← (← tokens? text).foldlM Reader.step? Reader.start
  match reader.expectation with
  | .finished value => some value
  | _ => none

/-- The items of an array. -/
def items? : Json → Option (List Json)
  | array items => some items
  | _ => none

def string? : Json → Option Text
  | string value => some value
  | _ => none

/-- The members of an object, of which a repeated name keeps the last value. -/
def members? : Json → Option (List (Text × Json))
  | object members => some (members.foldl (fun kept member =>
      kept.filter (fun other => other.1 ≠ member.1) ++ [member]) [])
  | _ => none

end Json

end Promptline
