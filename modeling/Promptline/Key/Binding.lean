/-
This file binds keys to actions, with one table for editing and one for the history search.
-/

import Promptline.Action
import Promptline.Key
import Promptline.Text.Blank

namespace Promptline

/-- The history search has a key table of its own. -/
inductive InputMode where
  | edit
  | search
  deriving DecidableEq, Repr

namespace Key

/-- The letter of a control key does not depend on its case. -/
def controlEdit? : Char → Option Action
  | 'a' => some (.motion .lineStart)
  | 'e' => some (.motion .lineEnd)
  | 'b' => some (.motion .left)
  | 'f' => some (.motion .right)
  | 'h' => some (.edit .deleteBefore)
  | 'd' => some (.edit .deleteOrEnd)
  | 'w' => some (.kill .wordBefore)
  | 'u' => some (.kill .toLineStart)
  | 'k' => some (.kill .toLineEnd)
  | 'y' => some .yank
  | 'p' => some .historyOlder
  | 'n' => some .historyNewer
  | 'r' => some .searchStart
  | 'c' => some .interrupt
  | 'l' => some .clearScreen
  | _ => none

def altEdit? : KeyCode → Option Action
  | .char 'b' => some (.motion .wordLeft)
  | .char 'f' => some (.motion .wordRight)
  | .char 'd' => some (.kill .wordAfter)
  | .char 'y' => some .yankPop
  | .backspace => some (.kill .wordBefore)
  | _ => none

/-- A control character has no binding of its own. -/
def plainEdit? (shift : Bool) : KeyCode → Option Action
  | .char c => if isControl c then none else some (.edit (.insert c))
  | .enter => some .submit
  | .escape => some .escape
  | .backspace => some (.edit .deleteBefore)
  | .delete => some (.edit .deleteAfter)
  | .tab => some (if shift then .completeBack else .complete)
  | .backTab => some .completeBack
  | .up => some .historyOlder
  | .down => some .historyNewer
  | .left => some (.motion .left)
  | .right => some (.motion .right)
  | .home => some (.motion .lineStart)
  | .lineEnd => some (.motion .lineEnd)

def controlSearch? : Char → Option SearchAction
  | 'r' | 'g' | 'c' => some .cancel
  | 'p' => some .up
  | 'n' => some .down
  | 's' => some .cycleSort
  | 'h' => some .erase
  | _ => none

def plainSearch? : KeyCode → Option SearchAction
  | .char c => if isControl c then none else some (.type c)
  | .backspace => some .erase
  | .up => some .up
  | .down => some .down
  | .tab | .backTab => some .cycleFilter
  | .enter => some .accept
  | .escape => some .cancel
  | _ => none

/-- The control modifier wins over alt, and only characters are bound with it. -/
def editAction? (key : Key) : Option Action :=
  if key.modifiers.control then
    match key.code with
    | .char c => controlEdit? c.toLower
    | _ => none
  else if key.modifiers.alt then altEdit? key.code
  else plainEdit? key.modifiers.shift key.code

/-- No key with the alt modifier is bound in the search. -/
def searchAction? (key : Key) : Option Action :=
  (if key.modifiers.control then
    match key.code with
    | .char c => controlSearch? c.toLower
    | _ => none
  else if key.modifiers.alt then none
  else plainSearch? key.code).map .search

/-- The action that the key is bound to in the given mode. -/
def action? (mode : InputMode) (key : Key) : Option Action :=
  match mode with
  | .edit => key.editAction?
  | .search => key.searchAction?

end Key

end Promptline
