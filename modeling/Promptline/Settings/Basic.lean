/-
This file defines the settings of the program with their standard values.
-/

import Promptline.Editor.Options

namespace Promptline

structure EditorSettings where
  /-- Zero stands for no limit. -/
  charLimit : Nat
  ringCapacity : Nat
  deriving DecidableEq, Repr

structure CompletionSettings where
  sigils : List Text
  /-- Completer programs may run for so many milliseconds. -/
  timeout : Nat
  boxHeight : Nat
  itemWidth : Nat
  /-- These command lines run at the start. -/
  specs : List Text
  deriving DecidableEq, Repr

structure HistorySettings where
  boxHeight : Nat
  filter : HistoryFilter
  sort : HistorySort
  deriving DecidableEq, Repr

structure SuggestionSettings where
  enabled : Bool
  deriving DecidableEq, Repr

structure Settings where
  editor : EditorSettings
  completion : CompletionSettings
  history : HistorySettings
  suggestions : SuggestionSettings
  deriving DecidableEq, Repr

namespace EditorSettings

def standard : EditorSettings := ⟨0, 30⟩

def limit? (settings : EditorSettings) : Option Nat :=
  if settings.charLimit = 0 then none else some settings.charLimit

end EditorSettings

namespace CompletionSettings

def standard : CompletionSettings := ⟨[Text.of "#!", Text.of "@!"], 2000, 8, 12, []⟩

/-- A completer always gets a millisecond. -/
def patience (settings : CompletionSettings) : Nat := max settings.timeout 1

end CompletionSettings

namespace Settings

def standard : Settings := ⟨.standard, .standard, ⟨10, .all, .recent⟩, ⟨true⟩⟩

/-- The options of an editor with these settings. -/
def options (settings : Settings) : EditorOptions where
  limit? := settings.editor.limit?
  ringCapacity := settings.editor.ringCapacity
  suggests := settings.suggestions.enabled
  completionHeight := settings.completion.boxHeight
  itemWidth := settings.completion.itemWidth
  historyHeight := settings.history.boxHeight
  filter := settings.history.filter
  sort := settings.history.sort
  prompt := EditorOptions.standard.prompt

end Settings

end Promptline
