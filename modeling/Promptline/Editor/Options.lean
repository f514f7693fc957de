/-
This file defines the options of the editor and the size of the screen it works on.
-/

import Promptline.History.Item

namespace Promptline

structure EditorOptions where
  limit? : Option Nat
  ringCapacity : Nat
  suggests : Bool
  completionHeight : Nat
  itemWidth : Nat
  historyHeight : Nat
  filter : HistoryFilter
  sort : HistorySort
  prompt : Text
  deriving DecidableEq, Repr

namespace EditorOptions

def standard : EditorOptions where
  limit? := none
  ringCapacity := 30
  suggests := true
  completionHeight := 8
  itemWidth := 12
  historyHeight := 10
  filter := .all
  sort := .recent
  prompt := Text.of "> "

end EditorOptions

/-- A region counts columns and rows from the start of the prompt row. -/
structure Region where
  column : Nat
  row : Nat
  width : Nat
  height : Nat
  deriving DecidableEq, Repr

/-- The terminal counts columns and rows in words of 16 bits. -/
structure ScreenSize where
  columns : Nat
  rows : Nat
  deriving DecidableEq, Repr

namespace ScreenSize

def standard : ScreenSize := ⟨80, 24⟩

/-- A terminal that reports no size, or none with room, counts as one of standard size. -/
def detected (reported? : Option ScreenSize) : ScreenSize :=
  match reported? with
  | some size => if 0 < size.columns ∧ 0 < size.rows then size else standard
  | none => standard

/-- The input line takes one row. -/
def line (size : ScreenSize) : Region := ⟨0, 0, size.columns, min size.rows 1⟩

/-- A box lies below the input line and is cut to the rows that are left. -/
def box (size : ScreenSize) (wanted : Nat) : Region :=
  ⟨0, 1, size.columns, min wanted (size.rows - 1)⟩

end ScreenSize

end Promptline
