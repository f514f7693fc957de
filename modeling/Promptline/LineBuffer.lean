/-
This file defines the line that is edited: a draft, the history entries that it can be replaced by
and a cursor in the text on display. An edit of a recalled entry first becomes the draft, so entries
never change.
-/

import Promptline.Text.Word

namespace Promptline

/-- A validator answers with a message when it objects to the draft. -/
abbrev Validator := Text → Option Text

structure LineBuffer where
  draft : Text
  /-- The newest entry comes first. -/
  entries : List Text
  /-- Zero shows the draft, and `n + 1` shows the entry `n`. -/
  selected : Nat
  cursor : Nat
  limit? : Option Nat
  validator? : Option Validator
  error? : Option Text

namespace LineBuffer

def empty (limit? : Option Nat) : LineBuffer := ⟨[], [], 0, 0, limit?, none, none⟩

/-- The text on display. -/
def shown (buffer : LineBuffer) : Text :=
  ((buffer.draft :: buffer.entries)[buffer.selected]?).getD buffer.draft

def length (buffer : LineBuffer) : Nat := buffer.shown.length

/-- The draft is on display. -/
theorem shown_eq_draft {buffer : LineBuffer} (current : buffer.selected = 0) :
    buffer.shown = buffer.draft := by
  simp [shown, current]

def atEnd (buffer : LineBuffer) : Bool := buffer.cursor = buffer.length

/-- The validator sees the draft. -/
def validate (buffer : LineBuffer) : LineBuffer :=
  { buffer with error? := buffer.validator?.bind fun objects => objects buffer.draft }

def setLimit (buffer : LineBuffer) (limit? : Option Nat) : LineBuffer :=
  { buffer with limit? }

def setValidator (buffer : LineBuffer) (validator? : Option Validator) : LineBuffer :=
  { buffer with validator? }.validate

/-- New entries bring the draft back on display. -/
def setEntries (buffer : LineBuffer) (entries : List Text) : LineBuffer :=
  { buffer with entries, selected := 0, cursor := min buffer.cursor buffer.draft.length }

def setCursor (buffer : LineBuffer) (offset : Nat) : LineBuffer :=
  { buffer with cursor := min offset buffer.length }

/-- A text is cut to the number of characters that it may have. -/
def cut (room? : Option Nat) (text : Text) : Text :=
  match room? with
  | some room => text.take room
  | none => text

theorem cut_isPrefix (room? : Option Nat) (text : Text) : cut room? text <+: text := by
  cases room? with
  | none => exact List.prefix_rfl
  | some room => exact List.take_prefix room text

/-- The text becomes the draft, cut to the limit, with the cursor at its end. -/
def setDraft (buffer : LineBuffer) (text : Text) : LineBuffer :=
  let draft := cut buffer.limit? text
  { buffer with draft, selected := 0, cursor := draft.length }.validate

/-- The draft is cleared for the next command. -/
def reset (buffer : LineBuffer) : LineBuffer :=
  { buffer with draft := [], selected := 0, cursor := 0, error? := none }

/-- The number of characters that fit once `removed` of them are gone. -/
def room? (buffer : LineBuffer) (removed : Nat) : Option Nat :=
  buffer.limit?.map fun limit => limit - (buffer.length - removed)

/-- Every edit writes one span of the text on display into the draft. -/
def write (buffer : LineBuffer) (start stop : Nat) (inserted : Text) (cursor : Nat) :
    LineBuffer :=
  { buffer with
    draft := buffer.shown.take start ++ inserted ++ buffer.shown.drop stop
    selected := 0
    cursor }.validate

@[simp] theorem shown_write (buffer : LineBuffer) (start stop : Nat) (inserted : Text)
    (cursor : Nat) :
    (buffer.write start stop inserted cursor).shown =
      buffer.shown.take start ++ inserted ++ buffer.shown.drop stop := rfl

@[simp] theorem cursor_write (buffer : LineBuffer) (start stop : Nat) (inserted : Text)
    (cursor : Nat) : (buffer.write start stop inserted cursor).cursor = cursor := rfl

@[simp] theorem limit?_write (buffer : LineBuffer) (start stop : Nat) (inserted : Text)
    (cursor : Nat) : (buffer.write start stop inserted cursor).limit? = buffer.limit? := rfl

/-- The text goes in at the cursor, cut to the room, and the count says how much went in. -/
def insert (buffer : LineBuffer) (text : Text) : LineBuffer × Nat :=
  let inserted := cut (buffer.room? 0) text
  if inserted = [] then (buffer, 0)
  else
    (buffer.write buffer.cursor buffer.cursor inserted (buffer.cursor + inserted.length),
      inserted.length)

theorem shown_insert (buffer : LineBuffer) (text : Text) :
    (buffer.insert text).1.shown =
      buffer.shown.take buffer.cursor ++ cut (buffer.room? 0) text ++
        buffer.shown.drop buffer.cursor := by
  simp only [insert]
  split
  next nothing => simp [nothing]
  · rfl

/-- The text between two offsets of the text on display. -/
def slice (buffer : LineBuffer) (start stop : Nat) : Text := buffer.shown.slice start stop

/-- The span is taken out, and a cursor inside it moves to its start. -/
def remove (buffer : LineBuffer) (start stop : Nat) : LineBuffer × Text :=
  let first := min start buffer.length
  let last := min stop buffer.length
  if last ≤ first then (buffer, [])
  else
    let cursor :=
      if last ≤ buffer.cursor then buffer.cursor - (last - first) else min buffer.cursor first
    (buffer.write first last [] cursor, buffer.slice first last)

/-- The span is replaced by the text, cut to the room, and the offset is where the text ends. -/
def replace (buffer : LineBuffer) (start stop : Nat) (text : Text) : LineBuffer × Nat :=
  let first := min start buffer.length
  let last := max first (min stop buffer.length)
  let inserted := cut (buffer.room? (last - first)) text
  (buffer.write first last inserted (first + inserted.length), first + inserted.length)

/-- For a span inside the text the room is counted without it. -/
theorem shown_replace (buffer : LineBuffer) {start stop : Nat} (text : Text)
    (ordered : start ≤ stop) (inside : stop ≤ buffer.length) :
    (buffer.replace start stop text).1.shown =
      buffer.shown.take start ++ cut (buffer.room? (stop - start)) text ++
        buffer.shown.drop stop := by
  have first : min start buffer.length = start := Nat.min_eq_left (Nat.le_trans ordered inside)
  have last : max start (min stop buffer.length) = stop := by omega
  simp only [replace, first, last, shown_write]

def deleteBefore? (buffer : LineBuffer) : Option LineBuffer :=
  if buffer.cursor = 0 then none
  else some (buffer.remove (buffer.cursor - 1) buffer.cursor).1

def deleteAfter? (buffer : LineBuffer) : Option LineBuffer :=
  if buffer.length ≤ buffer.cursor then none
  else some (buffer.remove buffer.cursor (buffer.cursor + 1)).1

/-- A kill answers with the text that it takes out, and an empty span gives none. -/
def kill? (buffer : LineBuffer) (start stop : Nat) : Option (LineBuffer × Text) :=
  if stop ≤ start then none else some (buffer.remove start stop)

def killWordBefore? (buffer : LineBuffer) : Option (LineBuffer × Text) :=
  buffer.kill? (buffer.shown.wordStartBefore buffer.cursor) buffer.cursor

def killWordAfter? (buffer : LineBuffer) : Option (LineBuffer × Text) :=
  buffer.kill? buffer.cursor (buffer.shown.wordEndAfter buffer.cursor)

def killToStart? (buffer : LineBuffer) : Option (LineBuffer × Text) :=
  buffer.kill? 0 buffer.cursor

def killToEnd? (buffer : LineBuffer) : Option (LineBuffer × Text) :=
  buffer.kill? buffer.cursor buffer.length

/-- A motion to the place of the cursor is none. -/
def moveTo? (buffer : LineBuffer) (offset : Nat) : Option LineBuffer :=
  if offset = buffer.cursor then none else some { buffer with cursor := offset }

def moveLeft? (buffer : LineBuffer) : Option LineBuffer := buffer.moveTo? (buffer.cursor - 1)

def moveRight? (buffer : LineBuffer) : Option LineBuffer :=
  if buffer.length ≤ buffer.cursor then none else buffer.moveTo? (buffer.cursor + 1)

def moveWordLeft? (buffer : LineBuffer) : Option LineBuffer :=
  buffer.moveTo? (buffer.shown.wordStartBefore buffer.cursor)

def moveWordRight? (buffer : LineBuffer) : Option LineBuffer :=
  buffer.moveTo? (buffer.shown.wordEndAfter buffer.cursor)

def moveToStart? (buffer : LineBuffer) : Option LineBuffer := buffer.moveTo? 0

def moveToEnd? (buffer : LineBuffer) : Option LineBuffer := buffer.moveTo? buffer.length

/-- Another text comes on display with the cursor at its end. -/
def select (buffer : LineBuffer) (index : Nat) : LineBuffer :=
  let shifted := { buffer with selected := index }
  { shifted with cursor := shifted.length }

def older? (buffer : LineBuffer) : Option LineBuffer :=
  if buffer.entries.length ≤ buffer.selected then none
  else some (buffer.select (buffer.selected + 1))

def newer? (buffer : LineBuffer) : Option LineBuffer :=
  if buffer.selected = 0 then none else some (buffer.select (buffer.selected - 1))

end LineBuffer

end Promptline
