/-
This file reads settings files. A file that is missing, is no UTF-8 or has any fault leaves the
standard settings.
-/

import Promptline.Settings.Basic
import Promptline.Toml.Document
import Promptline.Toml.Field

namespace Promptline

/-- Sizes are words of 64 bits, and screen sizes are words of 16 bits. -/
def Toml.size? : Toml → Option Nat := Toml.below? 18446744073709551616

def Toml.screenSize? : Toml → Option Nat := Toml.below? 65536

/-- The item with the given label. -/
def labelled? {A : Type} (label : A → Text) (items : List A) (value : Toml) : Option A := do
  let name ← value.choice?
  items.find? fun item => label item = name

namespace EditorSettings

def fields : List Text := [Text.of "char_limit", Text.of "kill_ring_capacity"]

def ofToml? (value : Toml) : Option EditorSettings := do
  let entries ← value.fields? fields
  return {
    charLimit := ← entries.read? (Text.of "char_limit") Toml.size? standard.charLimit
    ringCapacity :=
      ← entries.read? (Text.of "kill_ring_capacity") Toml.size? standard.ringCapacity }

end EditorSettings

namespace CompletionSettings

def fields : List Text :=
  [Text.of "whole_line_prefixes", Text.of "external_timeout_ms", Text.of "box_height",
    Text.of "min_item_width", Text.of "specs"]

def ofToml? (value : Toml) : Option CompletionSettings := do
  let entries ← value.fields? fields
  return {
    sigils := ← entries.read? (Text.of "whole_line_prefixes") Toml.strings? standard.sigils
    timeout := ← entries.read? (Text.of "external_timeout_ms") Toml.size? standard.timeout
    boxHeight := ← entries.read? (Text.of "box_height") Toml.screenSize? standard.boxHeight
    itemWidth := ← entries.read? (Text.of "min_item_width") Toml.screenSize? standard.itemWidth
    specs := ← entries.read? (Text.of "specs") Toml.strings? standard.specs }

end CompletionSettings

namespace HistorySettings

def fields : List Text := [Text.of "box_height", Text.of "filter", Text.of "sort"]

def ofToml? (value : Toml) : Option HistorySettings := do
  let entries ← value.fields? fields
  let standard := Settings.standard.history
  return {
    boxHeight := ← entries.read? (Text.of "box_height") Toml.screenSize? standard.boxHeight
    filter := ← entries.read? (Text.of "filter")
      (labelled? HistoryFilter.label [.all, .directory, .session]) standard.filter
    sort := ← entries.read? (Text.of "sort")
      (labelled? HistorySort.label [.recent, .relevance, .alphabetical]) standard.sort }

end HistorySettings

namespace SuggestionSettings

def ofToml? (value : Toml) : Option SuggestionSettings := do
  let entries ← value.fields? [Text.of "enabled"]
  return ⟨← entries.read? (Text.of "enabled") Toml.bool? Settings.standard.suggestions.enabled⟩

end SuggestionSettings

namespace Settings

def fields : List Text :=
  [Text.of "editor", Text.of "completion", Text.of "history", Text.of "suggestions"]

def ofToml? (value : Toml) : Option Settings := do
  let entries ← value.fields? fields
  return {
    editor := ← entries.read? (Text.of "editor") EditorSettings.ofToml? standard.editor
    completion :=
      ← entries.read? (Text.of "completion") CompletionSettings.ofToml? standard.completion
    history := ← entries.read? (Text.of "history") HistorySettings.ofToml? standard.history
    suggestions :=
      ← entries.read? (Text.of "suggestions") SuggestionSettings.ofToml? standard.suggestions }

/-- The settings that a document describes. -/
def parse? (text : Text) : Option Settings := do ofToml? (.table .header (← Toml.parse? text))

end Settings

/-- A file has a path and bytes. -/
structure SettingsFile where
  path : Text
  bytes : ByteArray

/-- The settings in force, with the file they come from. -/
structure LoadedSettings where
  settings : Settings
  source? : Option (Text × Text)
  deriving DecidableEq, Repr

namespace LoadedSettings

def standard : LoadedSettings := ⟨.standard, none⟩

/-- The path and the content of a file that is in force. -/
def ofFile? (file : SettingsFile) : Option LoadedSettings := do
  let content := (← String.fromUTF8? file.bytes).toList
  return ⟨← Settings.parse? content, some (file.path, content)⟩

/-- Without a file that can be used the standard settings are in force. -/
def load (file? : Option SettingsFile) : LoadedSettings :=
  (file?.bind ofFile?).getD standard

/-- A file in the working directory hides the file of the user, even if it has a fault. -/
def discover (inDirectory? ofUser? : Option SettingsFile) : LoadedSettings :=
  load (inDirectory?.or ofUser?)

end LoadedSettings

end Promptline
