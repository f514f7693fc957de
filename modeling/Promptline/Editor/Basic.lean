/-
This file defines the state of the editor and the operations of its host on it.
-/

import Promptline.Completion.Session
import Promptline.Editor.Options
import Promptline.History.Search
import Promptline.History.Suggestion
import Promptline.KillRing

namespace Promptline

structure Editor where
  buffer : LineBuffer
  ring : KillRing
  completion : Completion
  search : HistorySearch
  /-- The newest item comes first. -/
  history : List HistoryItem
  directory : Text
  /-- A kill hides the suggestion until another command. -/
  suppressed : Bool
  size : ScreenSize
  options : EditorOptions

namespace Editor

def ofOptions (options : EditorOptions) : Editor where
  buffer := .empty options.limit?
  ring := .ofCapacity options.ringCapacity
  completion := .idle true
  search := .idle options.filter options.sort
  history := []
  directory := []
  suppressed := false
  size := .standard
  options

def resize (editor : Editor) (size : ScreenSize) : Editor := { editor with size }

/-- The line can recall every command of the history. -/
def setHistory (editor : Editor) (history : List HistoryItem) : Editor :=
  { editor with history, buffer := editor.buffer.setEntries (history.map HistoryItem.command) }

def pushHistory (editor : Editor) (item : HistoryItem) : Editor :=
  editor.setHistory (item :: editor.history)

/-- A search over the history ends a completion session. -/
def enterSearch (editor : Editor) : Editor :=
  { editor with
    completion := editor.completion.reset
    search := editor.search.enter editor.history editor.directory }

/-- The suggestion stands behind a line that ends at the cursor, unless something else is
going on. -/
def ghost? (editor : Editor) : Option Text :=
  if editor.options.suggests && !editor.suppressed && !editor.completion.isActive &&
      !editor.search.active && !editor.buffer.shown.isEmpty && editor.buffer.atEnd then
    Suggestion.rest? editor.buffer.shown (editor.history.map HistoryItem.command)
  else none

/-- The suggestion goes into the line. -/
def acceptGhost? (editor : Editor) : Option Editor :=
  editor.ghost?.map fun rest => { editor with buffer := (editor.buffer.insert rest).1 }

/-- The next command starts with an empty line, and the kill ring keeps its entries. -/
def resetLine (editor : Editor) : Editor :=
  { editor with
    buffer := editor.buffer.reset
    completion := editor.completion.reset
    search := if editor.search.active then editor.search.cancel else editor.search
    ring := editor.ring.breakChain.clearYanked
    suppressed := false }

end Editor

end Promptline
