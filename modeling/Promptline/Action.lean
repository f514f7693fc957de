/-
This file defines what the editor can be told to do.
-/

import Promptline.Text.Basic

namespace Promptline

/-- A motion moves the cursor. -/
inductive Motion where
  | left
  | right
  | wordLeft
  | wordRight
  | lineStart
  | lineEnd
  deriving DecidableEq, Repr

/-- An edit changes the text and leaves the kill ring alone. -/
inductive Edit where
  | insert (c : Char)
  | deleteBefore
  | deleteAfter
  /-- An empty line ends the input, and any other loses the character under the cursor. -/
  | deleteOrEnd
  deriving DecidableEq, Repr

/-- A kill moves text from the line into the kill ring. -/
inductive Kill where
  | wordBefore
  | wordAfter
  | toLineStart
  | toLineEnd
  deriving DecidableEq, Repr

/-- These actions drive the history search. -/
inductive SearchAction where
  | type (c : Char)
  | erase
  | up
  | down
  | cycleFilter
  | cycleSort
  | accept
  | cancel
  deriving DecidableEq, Repr

inductive Action where
  | motion (motion : Motion)
  | edit (edit : Edit)
  | kill (kill : Kill)
  | yank
  | yankPop
  | historyOlder
  | historyNewer
  | complete
  | completeBack
  | escape
  | submit
  | interrupt
  | clearScreen
  | searchStart
  | search (action : SearchAction)
  deriving DecidableEq, Repr

namespace Action

def isKill : Action → Bool
  | kill _ => true
  | _ => false

def isYank : Action → Bool
  | yank | yankPop => true
  | _ => false

/-- These actions leave an open completion session to itself. -/
def drivesCompletion : Action → Bool
  | complete | completeBack | escape | submit => true
  | _ => false

end Action

end Promptline
