/-
This file says what kills take out of the line. The text stands at the cursor, in front of it or
behind it, and the two parts around it close up. Kills of one direction together take out one text.
-/

import Promptline.Editor.Step
import Promptline.Proofs.LineBuffer.Insertion

namespace Promptline

/-- The place of the cursor at a text that a kill of the given direction takes out. -/
def KillDirection.cursor (direction : KillDirection) (head text : Text) : Nat :=
  match direction with
  | .forward => head.length
  | .backward => (head ++ text).length

namespace LineBuffer

/-- A text is taken out between a head and a tail, and the cursor goes to the gap. -/
structure Loses (direction : KillDirection) (before after : LineBuffer) (text : Text) : Prop where
  limit_eq : after.limit? = before.limit?
  parts : ∃ head tail : Text, before.shown = head ++ text ++ tail ∧
    before.cursor = direction.cursor head text ∧ after.Shows head [] tail

/-- A span inside the line is taken out at the cursor. -/
theorem loses_of_kill? {buffer after : LineBuffer} {start stop : Nat} {text : Text}
    (inside : stop ≤ buffer.length) (killed : buffer.kill? start stop = some (after, text))
    {direction : KillDirection}
    (beside : buffer.cursor = match direction with | .forward => start | .backward => stop) :
    text ≠ [] ∧ buffer.Loses direction after text := by
  simp only [kill?] at killed
  split at killed
  · simp at killed
  next longer =>
    have first : min start buffer.length = start := Nat.min_eq_left (by omega)
    have last : min stop buffer.length = stop := Nat.min_eq_left inside
    have placed : (buffer.shown.take start).length = start := by
      rw [List.length_take]
      exact first
    have count : (buffer.slice start stop).length = stop - start := by
      rw [slice, Text.length_slice]
      exact congrArg (· - start) last
    simp only [remove, first, last, longer, if_false] at killed
    obtain ⟨rfl, rfl⟩ := Prod.ext_iff.1 (Option.some.inj killed)
    refine ⟨?_, rfl, buffer.shown.take start, buffer.shown.drop stop, ?_, ?_, rfl, ?_⟩
    · refine List.ne_nil_of_length_pos ?_
      rw [count]
      omega
    · exact (Text.take_append_slice_append_drop buffer.shown (by omega)).symm
    · cases direction with
      | forward =>
          rw [KillDirection.cursor, placed]
          exact beside
      | backward =>
          rw [KillDirection.cursor, List.length_append, placed, count]
          dsimp only at beside
          omega
    · rw [cursor_write, List.append_nil, placed]
      cases direction <;> dsimp only at beside <;> split <;> omega

/-- Every kill takes its text out on its side of the cursor. -/
theorem loses_of_killed? {buffer after : LineBuffer} (inside : buffer.cursor ≤ buffer.length)
    {kill : Kill} {text : Text} (killed : Editor.killed? buffer kill = some (after, text)) :
    text ≠ [] ∧ buffer.Loses (Editor.killDirection kill) after text := by
  cases kill with
  | wordBefore => exact loses_of_kill? inside killed rfl
  | wordAfter => exact loses_of_kill? (Text.wordEndAfter_le_length _ _) killed rfl
  | toLineStart => exact loses_of_kill? inside killed rfl
  | toLineEnd => exact loses_of_kill? (Nat.le_refl _) killed rfl

/-- Nothing is taken out at the cursor yet. -/
theorem loses_nil {line : LineBuffer} (inside : line.cursor ≤ line.length)
    (direction : KillDirection) : line.Loses direction line [] := by
  have around := shows_around_cursor inside
  refine ⟨rfl, _, _, around.shown_eq, ?_, around⟩
  cases direction with
  | forward => exact around.cursor_eq.trans (congrArg List.length (List.append_nil _))
  | backward => exact around.cursor_eq

/-- Two texts that are taken out one after the other stand side by side. -/
theorem Loses.trans {direction : KillDirection} {before middle after : LineBuffer}
    {first second : Text} (lost : before.Loses direction middle first)
    (loses : middle.Loses direction after second) :
    before.Loses direction after (KillRing.grow direction first second) := by
  obtain ⟨head, tail, whole, start, closed⟩ := lost.parts
  obtain ⟨before', after', rest, stop, gap⟩ := loses.parts
  refine ⟨loses.limit_eq.trans lost.limit_eq, before', ?_⟩
  have same : head ++ tail = before' ++ second ++ after' := by
    rw [← rest, closed.shown_eq, List.append_nil]
  have place : head.length = direction.cursor before' second := by
    rw [← stop, closed.cursor_eq, List.append_nil]
  -- The gap of the first text is where the second one begins or ends, so the line is cut alike.
  cases direction with
  | forward =>
      rw [List.append_assoc] at same
      obtain ⟨rfl, rfl⟩ := List.append_inj same place
      refine ⟨after', ?_, start, gap⟩
      rw [whole, KillRing.grow]
      simp only [List.append_assoc]
  | backward =>
      obtain ⟨rfl, rfl⟩ := List.append_inj same place
      refine ⟨tail, ?_, ?_, gap⟩
      · rw [whole, KillRing.grow]
        simp only [List.append_assoc]
      · rw [start, KillDirection.cursor, KillDirection.cursor, KillRing.grow, List.append_assoc]

/-- A text that is inserted where it was taken out is back, and the cursor stands behind it. -/
theorem Loses.insert {direction : KillDirection} {before after : LineBuffer} {text : Text}
    (lost : before.Loses direction after text)
    (fits : ∀ limit, before.limit? = some limit → before.length ≤ limit) :
    (after.insert text).1.shown = before.shown ∧
      (direction = .backward → (after.insert text).1.cursor = before.cursor) ∧
      (direction = .forward → (after.insert text).1.cursor = before.cursor + text.length) := by
  obtain ⟨head, tail, whole, start, gap⟩ := lost.parts
  have inserted := (gap.insert text).1
  have all : fitting after.limit? head tail text = text := by
    refine fitting_eq_self fun limit bounded => ?_
    rw [lost.limit_eq] at bounded
    rw [← whole]
    exact fits limit bounded
  rw [all] at inserted
  refine ⟨inserted.shown_eq.trans whole.symm, ?_, ?_⟩
  · rintro rfl
    rw [inserted.cursor_eq, start]
    rfl
  · rintro rfl
    rw [inserted.cursor_eq, start, List.length_append]
    rfl

end LineBuffer

end Promptline
