/-
This file turns the key reports of a terminal into the keys of the editor.
-/

import Promptline.Key

namespace Promptline

/-- A terminal also reports keys that the editor has no use for. -/
inductive TerminalCode where
  | known (code : KeyCode)
  | function (number : Nat)
  | insert
  | pageUp
  | pageDown
  | null
  | capsLock
  | menu
  deriving DecidableEq, Repr

/-- A report says whether the key went down, repeats or came up. -/
inductive KeyPhase where
  | press
  | repeated
  | release
  deriving DecidableEq, Repr

/-- A report of the terminal carries the modifiers that the editor looks at. -/
structure TerminalKey where
  code : TerminalCode
  modifiers : Modifiers
  phase : KeyPhase
  deriving DecidableEq, Repr

namespace KeyCode

/-- A terminal reports a shifted character as the character itself, and back-tab is shifted. -/
def absorbsShift : KeyCode → Bool
  | char _ | backTab => true
  | _ => false

end KeyCode

namespace TerminalKey

/-- Releases and keys without a use give no key. -/
def key? (report : TerminalKey) : Option Key :=
  match report.phase, report.code with
  | .release, _ => none
  | _, .known code =>
      some ⟨code, { report.modifiers with
        shift := report.modifiers.shift && !code.absorbsShift }⟩
  | _, _ => none

end TerminalKey

end Promptline
