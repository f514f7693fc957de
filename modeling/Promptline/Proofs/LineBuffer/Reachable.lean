/-
This file describes the lines that any run of operations can reach. In each of them the cursor is
inside the text on display, and the selection names the draft or an entry.
-/

import Promptline.Editor.Step

namespace Promptline.LineBuffer

/-- These are the operations that a line offers to its host. -/
inductive Operation where
  | setLimit (limit? : Option Nat)
  | setValidator (validator? : Option Validator)
  | setEntries (entries : List Text)
  | setCursor (offset : Nat)
  | setDraft (text : Text)
  | reset
  | insert (text : Text)
  | remove (start stop : Nat)
  | replace (start stop : Nat) (text : Text)
  | deleteBefore
  | deleteAfter
  | kill (kill : Kill)
  | move (motion : Motion)
  | older
  | newer

/-- An operation that finds nothing to do leaves the line as it is. -/
def perform (buffer : LineBuffer) : Operation → LineBuffer
  | .setLimit limit? => buffer.setLimit limit?
  | .setValidator validator? => buffer.setValidator validator?
  | .setEntries entries => buffer.setEntries entries
  | .setCursor offset => buffer.setCursor offset
  | .setDraft text => buffer.setDraft text
  | .reset => buffer.reset
  | .insert text => (buffer.insert text).1
  | .remove start stop => (buffer.remove start stop).1
  | .replace start stop text => (buffer.replace start stop text).1
  | .deleteBefore => buffer.deleteBefore?.getD buffer
  | .deleteAfter => buffer.deleteAfter?.getD buffer
  | .kill kill => ((Editor.killed? buffer kill).map Prod.fst).getD buffer
  | .move motion => (Editor.moved? buffer motion).getD buffer
  | .older => buffer.older?.getD buffer
  | .newer => buffer.newer?.getD buffer

/-- A reachable line starts empty and has seen any operations since. -/
inductive Reachable : LineBuffer → Prop where
  | empty (limit? : Option Nat) : Reachable (.empty limit?)
  | perform {buffer : LineBuffer} (reachable : Reachable buffer) (operation : Operation) :
      Reachable (buffer.perform operation)

/-- The cursor and the selection are in range. -/
structure Bounded (buffer : LineBuffer) : Prop where
  cursor_le : buffer.cursor ≤ buffer.length
  selected_le : buffer.selected ≤ buffer.entries.length

/-- On the draft only the cursor can be out of range. -/
theorem bounded_of_draft {buffer : LineBuffer} (current : buffer.selected = 0)
    (inside : buffer.cursor ≤ buffer.draft.length) : buffer.Bounded where
  cursor_le := by rwa [length, shown_eq_draft current]
  selected_le := by omega

/-- A written text has the lengths of its three parts. -/
theorem length_write (buffer : LineBuffer) (start stop : Nat) (inserted : Text) (cursor : Nat) :
    (buffer.write start stop inserted cursor).length =
      min start buffer.length + inserted.length + (buffer.length - stop) := by
  simp only [length, shown_write, List.length_append, List.length_take, List.length_drop]

theorem bounded_write {buffer : LineBuffer} {start stop cursor : Nat} {inserted : Text}
    (inside : cursor ≤ min start buffer.length + inserted.length) :
    (buffer.write start stop inserted cursor).Bounded where
  cursor_le := by
    rw [length_write, cursor_write]
    omega
  selected_le := Nat.zero_le _

theorem Bounded.insert {buffer : LineBuffer} (bounded : buffer.Bounded) (text : Text) :
    (buffer.insert text).1.Bounded := by
  have inside := bounded.cursor_le
  simp only [LineBuffer.insert]
  split
  · exact bounded
  · exact bounded_write (by omega)

theorem Bounded.remove {buffer : LineBuffer} (bounded : buffer.Bounded) (start stop : Nat) :
    (buffer.remove start stop).1.Bounded := by
  have inside := bounded.cursor_le
  simp only [LineBuffer.remove]
  split
  · exact bounded
  · refine ⟨?_, Nat.zero_le _⟩
    rw [length_write, cursor_write, List.length_nil]
    split <;> omega

/-- A replacement bounds the cursor whatever was there before. -/
theorem bounded_replace (buffer : LineBuffer) (start stop : Nat) (text : Text) :
    (buffer.replace start stop text).1.Bounded :=
  bounded_write (by omega)

/-- A motion to the place of the cursor is none, and that makes no difference to the line. -/
theorem getD_moveTo? (buffer : LineBuffer) (offset : Nat) :
    (buffer.moveTo? offset).getD buffer = { buffer with cursor := offset } := by
  simp only [moveTo?]
  split
  next same => rw [same, Option.getD_none]
  · rfl

/-- Whatever a motion finds, it changes no more than the cursor. -/
theorem exists_getD_moved? (buffer : LineBuffer) (motion : Motion) :
    ∃ offset, (Editor.moved? buffer motion).getD buffer = { buffer with cursor := offset } := by
  cases motion with
  | right =>
      simp only [Editor.moved?, moveRight?]
      split
      · exact ⟨buffer.cursor, rfl⟩
      · exact ⟨_, buffer.getD_moveTo? _⟩
  | _ => exact ⟨_, buffer.getD_moveTo? _⟩

/-- The place that a motion leads to. -/
def destination (buffer : LineBuffer) : Motion → Nat
  | .left => buffer.cursor - 1
  | .right => min (buffer.cursor + 1) buffer.length
  | .wordLeft => buffer.shown.wordStartBefore buffer.cursor
  | .wordRight => buffer.shown.wordEndAfter buffer.cursor
  | .lineStart => 0
  | .lineEnd => buffer.length

theorem destination_le {buffer : LineBuffer} (inside : buffer.cursor ≤ buffer.length)
    (motion : Motion) : buffer.destination motion ≤ buffer.length := by
  cases motion with
  | left => exact Nat.le_trans (Nat.sub_le _ 1) inside
  | right => exact Nat.min_le_right _ _
  | wordLeft => exact Nat.le_trans (Text.wordStartBefore_le _ _) inside
  | wordRight => exact Text.wordEndAfter_le_length _ _
  | lineStart => exact Nat.zero_le _
  | lineEnd => exact Nat.le_refl _

/-- A motion takes the cursor to its place and does nothing else. -/
theorem perform_move {buffer : LineBuffer} (inside : buffer.cursor ≤ buffer.length)
    (motion : Motion) :
    buffer.perform (.move motion) = { buffer with cursor := buffer.destination motion } := by
  cases motion with
  | right =>
      simp only [LineBuffer.perform, Editor.moved?, moveRight?, destination]
      split
      next atEnd =>
        have stays : min (buffer.cursor + 1) buffer.length = buffer.cursor := by omega
        rw [stays, Option.getD_none]
      next further =>
        rw [Nat.min_eq_left (by omega)]
        exact buffer.getD_moveTo? _
  | _ => exact buffer.getD_moveTo? _

theorem Bounded.kill {buffer : LineBuffer} (bounded : buffer.Bounded) (kill : Kill) :
    (((Editor.killed? buffer kill).map Prod.fst).getD buffer).Bounded := by
  have span (start stop : Nat) :
      (((buffer.kill? start stop).map Prod.fst).getD buffer).Bounded := by
    simp only [kill?]
    split
    · exact bounded
    · exact bounded.remove start stop
  cases kill <;> exact span _ _

theorem bounded_select {buffer : LineBuffer} {index : Nat} (known : index ≤ buffer.entries.length) :
    (buffer.select index).Bounded := ⟨Nat.le_refl _, known⟩

/-- No operation takes the cursor or the selection out of range. -/
theorem Bounded.perform {buffer : LineBuffer} (bounded : buffer.Bounded) (operation : Operation) :
    (buffer.perform operation).Bounded := by
  have known := bounded.selected_le
  cases operation with
  | setLimit limit? => exact ⟨bounded.cursor_le, bounded.selected_le⟩
  | setValidator validator? => exact ⟨bounded.cursor_le, bounded.selected_le⟩
  | setEntries entries => exact bounded_of_draft rfl (Nat.min_le_right _ _)
  | setCursor offset => exact ⟨Nat.min_le_right _ _, bounded.selected_le⟩
  | setDraft text => exact bounded_of_draft rfl (Nat.le_refl _)
  | reset => exact bounded_of_draft rfl (Nat.le_refl _)
  | insert text => exact bounded.insert text
  | remove start stop => exact bounded.remove start stop
  | replace start stop text => exact bounded_replace buffer start stop text
  | deleteBefore =>
      simp only [LineBuffer.perform, deleteBefore?]
      split
      · exact bounded
      · exact bounded.remove _ _
  | deleteAfter =>
      simp only [LineBuffer.perform, deleteAfter?]
      split
      · exact bounded
      · exact bounded.remove _ _
  | kill kill => exact bounded.kill kill
  | move motion =>
      rw [perform_move bounded.cursor_le]
      exact ⟨destination_le bounded.cursor_le motion, bounded.selected_le⟩
  | older =>
      simp only [LineBuffer.perform, older?]
      split
      · exact bounded
      · exact bounded_select (by omega)
  | newer =>
      simp only [LineBuffer.perform, newer?]
      split
      · exact bounded
      · exact bounded_select (by omega)

/-- The bounds hold in every reachable line. -/
theorem Reachable.bounded {buffer : LineBuffer} (reachable : buffer.Reachable) :
    buffer.Bounded := by
  induction reachable with
  | empty limit? => exact bounded_of_draft rfl (Nat.le_refl _)
  | perform _ operation inductionHypothesis => exact inductionHypothesis.perform operation

/-- The host sets a line up with these operations, and keys never lead to them. -/
def Operation.setsUp : Operation → Bool
  | setLimit _ | setValidator _ | setEntries _ => true
  | _ => false

/-- The second line comes from the first by operations that keys can lead to. -/
inductive Edits (buffer : LineBuffer) : LineBuffer → Prop where
  | refl : Edits buffer buffer
  | perform {line : LineBuffer} (edits : Edits buffer line) (operation : Operation)
      (edit : operation.setsUp = false) : Edits buffer (line.perform operation)

theorem Edits.reachable {buffer line : LineBuffer} (edits : buffer.Edits line)
    (reachable : buffer.Reachable) : line.Reachable := by
  induction edits with
  | refl => exact reachable
  | perform _ operation _ inductionHypothesis => exact inductionHypothesis.perform operation

/-- What the host has set up of a line. -/
def setup (buffer : LineBuffer) : List Text × Option Nat × Option Validator :=
  (buffer.entries, buffer.limit?, buffer.validator?)

theorem setup_remove (buffer : LineBuffer) (start stop : Nat) :
    (buffer.remove start stop).1.setup = buffer.setup := by
  simp only [remove]
  split <;> rfl

theorem setup_perform (buffer : LineBuffer) {operation : Operation}
    (edit : operation.setsUp = false) : (buffer.perform operation).setup = buffer.setup := by
  cases operation with
  | setLimit => simp [Operation.setsUp] at edit
  | setValidator => simp [Operation.setsUp] at edit
  | setEntries => simp [Operation.setsUp] at edit
  | setCursor => rfl
  | setDraft => rfl
  | reset => rfl
  | insert text =>
      simp only [LineBuffer.perform, LineBuffer.insert]
      split <;> rfl
  | remove start stop => exact setup_remove buffer start stop
  | replace => rfl
  | deleteBefore =>
      simp only [LineBuffer.perform, deleteBefore?]
      split
      · rfl
      · exact setup_remove buffer _ _
  | deleteAfter =>
      simp only [LineBuffer.perform, deleteAfter?]
      split
      · rfl
      · exact setup_remove buffer _ _
  | kill kill =>
      have span (start stop : Nat) :
          (((buffer.kill? start stop).map Prod.fst).getD buffer).setup = buffer.setup := by
        simp only [kill?]
        split
        · rfl
        · exact setup_remove buffer start stop
      cases kill <;> exact span _ _
  | move motion =>
      obtain ⟨offset, moved⟩ := exists_getD_moved? buffer motion
      rw [LineBuffer.perform, moved]
      rfl
  | older =>
      simp only [LineBuffer.perform, older?]
      split <;> rfl
  | newer =>
      simp only [LineBuffer.perform, newer?]
      split <;> rfl

/-- No key changes what the host has set up. -/
theorem Edits.setup {buffer line : LineBuffer} (edits : buffer.Edits line) :
    line.setup = buffer.setup := by
  induction edits with
  | refl => rfl
  | perform _ operation edit inductionHypothesis =>
      rw [setup_perform _ edit, inductionHypothesis]

theorem Edits.entries {buffer line : LineBuffer} (edits : buffer.Edits line) :
    line.entries = buffer.entries := congrArg Prod.fst edits.setup

theorem Edits.limit? {buffer line : LineBuffer} (edits : buffer.Edits line) :
    line.limit? = buffer.limit? := congrArg (fun setup => setup.2.1) edits.setup

end Promptline.LineBuffer
