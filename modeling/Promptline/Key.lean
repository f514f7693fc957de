/-
This file defines the keys that the editor understands and their printed names.
-/

import Promptline.Text.Basic

namespace Promptline

/-- A key code is a character or one of the named keys. -/
inductive KeyCode where
  | char (c : Char)
  | enter
  | escape
  | backspace
  | delete
  | tab
  | backTab
  | up
  | down
  | left
  | right
  | home
  | lineEnd
  deriving DecidableEq, Repr

/-- The modifiers that the editor looks at. -/
structure Modifiers where
  control : Bool
  alt : Bool
  shift : Bool
  deriving DecidableEq, Repr

/-- A key is a code with the modifiers held down. -/
structure Key where
  code : KeyCode
  modifiers : Modifiers
  deriving DecidableEq, Repr

namespace KeyCode

/-- A character names itself. -/
def name : KeyCode → Text
  | char c => [c]
  | enter => Text.of "Enter"
  | escape => Text.of "Esc"
  | backspace => Text.of "Backspace"
  | delete => Text.of "Delete"
  | tab => Text.of "Tab"
  | backTab => Text.of "BackTab"
  | up => Text.of "Up"
  | down => Text.of "Down"
  | left => Text.of "Left"
  | right => Text.of "Right"
  | home => Text.of "Home"
  | lineEnd => Text.of "End"

end KeyCode

namespace Modifiers

def none : Modifiers := ⟨false, false, false⟩

/-- Each modifier has a letter, and the letters stand in a fixed order. -/
def name (modifiers : Modifiers) : Text :=
  (if modifiers.control then Text.of "C-" else []) ++
    (if modifiers.alt then Text.of "M-" else []) ++
    (if modifiers.shift then Text.of "S-" else [])

end Modifiers

namespace Key

/-- A character key without modifiers. -/
def typed (c : Char) : Key := ⟨.char c, .none⟩

/-- A named key without modifiers. -/
def plain (code : KeyCode) : Key := ⟨code, .none⟩

/-- A character key with the control modifier. -/
def control (c : Char) : Key := ⟨.char c, ⟨true, false, false⟩⟩

/-- A character key with the alt modifier. -/
def alt (c : Char) : Key := ⟨.char c, ⟨false, true, false⟩⟩

/-- The modifiers stand before the code. -/
def name (key : Key) : Text := key.modifiers.name ++ key.code.name

end Key

end Promptline
