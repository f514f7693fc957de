/-
This file defines history items and the modes of the history search.
-/

import Promptline.Text.Basic

namespace Promptline

/-- An item remembers the directory in which the command was entered. -/
structure HistoryItem where
  command : Text
  directory : Text
  deriving DecidableEq, Repr

/-- Sessions are not told apart, so that filter passes every item. -/
inductive HistoryFilter where
  | all
  | directory
  | session
  deriving DecidableEq, Repr

inductive HistorySort where
  | recent
  | relevance
  | alphabetical
  deriving DecidableEq, Repr

namespace HistoryFilter

def next : HistoryFilter → HistoryFilter
  | all => directory
  | directory => session
  | session => all

def label : HistoryFilter → Text
  | all => Text.of "all"
  | directory => Text.of "directory"
  | session => Text.of "session"

def passes (filter : HistoryFilter) (current : Text) (item : HistoryItem) : Bool :=
  match filter with
  | .directory => item.directory = current
  | _ => true

end HistoryFilter

namespace HistorySort

def next : HistorySort → HistorySort
  | recent => relevance
  | relevance => alphabetical
  | alphabetical => recent

def label : HistorySort → Text
  | recent => Text.of "recent"
  | relevance => Text.of "relevance"
  | alphabetical => Text.of "alphabetical"

end HistorySort

end Promptline
