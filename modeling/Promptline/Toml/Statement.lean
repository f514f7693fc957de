/-
This file reads a key with its value. Open arrays and inline tables are kept on a stack, and every
token is taken once.
-/

import Promptline.Toml.Scalar
import Promptline.Toml.Table
import Promptline.Toml.Token

namespace Promptline.Toml

/-- A value that is open, with the key that waits for it. -/
inductive Container where
  | array (items : List Toml)
  | table (entries : Entries)
  /-- The key of a value in a table, or of the whole statement. -/
  | pair (path : List Text)

/-- What the next token may be. -/
inductive Expectation where
  /-- A part of a key, behind the parts before it. -/
  | name (parts : List Text)
  | nameOrClose
  | afterName (parts : List Text)
  /-- The key in a table is complete, for a line has ended behind it. -/
  | equals (parts : List Text)
  | value
  | valueOrClose
  /-- A value without quotes goes on as long as atoms and dots follow. -/
  | scalar (held : Text)
  /-- A date and a space may go on with a time. -/
  | afterDate (held : Text)
  | commaOrClose
  | finished (path : List Text) (value : Toml)

structure Reader where
  stack : List Container
  expectation : Expectation

def isKeyPart (c : Char) : Bool := c.isAlphanum || c = '_' || c = '-'

/-- A part of a key is bare or a string on one line. -/
def keyPart? : Token → Option Text
  | .atom text => if text.all isKeyPart then some text else none
  | .string value false => some value
  | _ => none

def Scalar.value : Scalar → Toml
  | .bool value => Toml.bool value
  | .integer value? => Toml.integer value?
  | .float representable => Toml.float representable
  | .moment => Toml.moment

namespace Reader

/-- This many arrays and tables may be open at once. -/
def depthLimit : Nat := 80

/-- A key has at most this many parts. -/
def keyLimit : Nat := 80

def start : Reader := ⟨[], .name []⟩

/-- A value goes to the place that waits for it. -/
def deliver? (stack : List Container) (value : Toml) : Option Reader :=
  match stack with
  | .array items :: outer => some ⟨.array (value :: items) :: outer, .commaOrClose⟩
  | [.pair path] => some ⟨[], .finished path value⟩
  | .pair path :: .table entries :: outer => do
      return ⟨.table (← entries.insert? value path) :: outer, .commaOrClose⟩
  | _ => none

def enter? (stack : List Container) (container : Container) (expectation : Expectation) :
    Option Reader :=
  let depth := stack.countP fun
    | .pair _ => false
    | _ => true
  if depth < depthLimit then some ⟨container :: stack, expectation⟩ else none

def value? (stack : List Container) : Token → Option Reader
  | .string value _ => deliver? stack (.string value)
  | .atom text => some ⟨stack, .scalar text⟩
  | .openSquare => enter? stack (.array []) .valueOrClose
  | .openCurly => enter? stack (.table []) .nameOrClose
  | _ => none

def close? (stack : List Container) (token : Token) : Option Reader :=
  match stack, token with
  | .array items :: outer, .closeSquare => deliver? outer (.array items.reverse)
  | .table entries :: outer, .closeCurly => deliver? outer (.table .inline entries)
  | _, _ => none

/-- Behind a comma the container may still be closed. -/
def next? (stack : List Container) (token : Token) : Option Reader :=
  match token with
  | .comma =>
      match stack with
      | .array _ :: _ => some ⟨stack, .valueOrClose⟩
      | .table _ :: _ => some ⟨stack, .nameOrClose⟩
      | _ => none
  | token => close? stack token

def finishScalar? (stack : List Container) (held : Text) : Option Reader := do
  deliver? stack (← scalar? held).value

/-- A line may end inside a container, but neither inside a key nor between the key and the value
of the whole statement. -/
def break? (reader : Reader) : Option Reader :=
  match reader.expectation, reader.stack with
  | .nameOrClose, _ | .valueOrClose, _ | .commaOrClose, _ | .equals _, _ => some reader
  | .afterName parts, .table _ :: _ => some { reader with expectation := .equals parts }
  | .value, .pair _ :: .table _ :: _ => some reader
  | _, _ => none

/-- One more part of a key. -/
def name? (stack : List Container) (parts : List Text) (token : Token) : Option Reader := do
  let part ← keyPart? token
  if parts.length < keyLimit then some ⟨stack, .afterName (parts ++ [part])⟩ else none

/-- A token that is neither a blank nor a line end. -/
def take? (reader : Reader) (token : Token) : Option Reader :=
  match reader.expectation with
  | .name parts => name? reader.stack parts token
  | .nameOrClose => (close? reader.stack token).or (name? reader.stack [] token)
  | .afterName parts =>
      match token with
      | .dot => some ⟨reader.stack, .name parts⟩
      | .equals => some ⟨.pair parts :: reader.stack, .value⟩
      | _ => none
  | .equals parts =>
      if token = .equals then some ⟨.pair parts :: reader.stack, .value⟩ else none
  | .value => value? reader.stack token
  | .valueOrClose => (close? reader.stack token).or (value? reader.stack token)
  | .commaOrClose => next? reader.stack token
  | .scalar held | .afterDate held =>
      (finishScalar? reader.stack held).bind fun reader => next? reader.stack token
  | .finished _ _ => none

/-- A value without quotes ends at the first token that cannot be part of it. -/
def blank? (reader : Reader) (token : Token) : Option Reader :=
  match reader.expectation, token with
  | .scalar held, .space [' '] =>
      if isDate held then some ⟨reader.stack, .afterDate held⟩
      else finishScalar? reader.stack held
  | .scalar held, _ | .afterDate held, _ => do
      let reader ← finishScalar? reader.stack held
      if token = .newline then reader.break? else some reader
  | _, .newline => reader.break?
  | _, _ => some reader

def step? (reader : Reader) (token : Token) : Option Reader :=
  match reader.expectation, token with
  | .scalar held, .atom text => some { reader with expectation := .scalar (held ++ text) }
  | .scalar held, .dot => some { reader with expectation := .scalar (held ++ ['.']) }
  | .afterDate held, .atom text =>
      if text.head?.any Json.isDigit then
        some { reader with expectation := .scalar (held ++ [' '] ++ text) }
      else none
  | _, .space _ | _, .newline => reader.blank? token
  | _, _ => reader.take? token

/-- The key and the value of a statement that ends here. -/
def result? (reader : Reader) : Option (List Text × Toml) :=
  match reader.expectation with
  | .finished path value => some (path, value)
  | .scalar held | .afterDate held =>
      match finishScalar? reader.stack held with
      | some ⟨_, .finished path value⟩ => some (path, value)
      | _ => none
  | _ => none

end Reader

/-- The key and the value of a statement. -/
def pair? (tokens : List Token) : Option (List Text × Toml) := do
  (← tokens.foldlM Reader.step? Reader.start).result?

/-- A key without a value, as it stands in a header. -/
def headerPath? (tokens : List Token) : Option (List Text) := do
  match (← tokens.foldlM Reader.step? Reader.start).expectation with
  | .afterName parts => some parts
  | _ => none

end Promptline.Toml
