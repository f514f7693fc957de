/-
This file says what the line shows once a text is put between two parts of it. The text is cut to
the room that the two parts leave, and the cursor stands behind it. A text can go in at once or
piece by piece.
-/

import Promptline.Proofs.LineBuffer.Replacement

namespace Promptline.LineBuffer

/-- As much of a text as fits between two parts of a line. -/
def fitting (limit? : Option Nat) (left right text : Text) : Text :=
  match limit? with
  | some limit => text.take (limit - (left.length + right.length))
  | none => text

theorem fitting_eq_cut (limit? : Option Nat) (left right text : Text) :
    fitting limit? left right text =
      cut (limit?.map fun limit => limit - (left.length + right.length)) text := by
  cases limit? with
  | none => rfl
  | some limit => rfl

theorem fitting_eq_self {limit? : Option Nat} {left right text : Text}
    (fits : ∀ limit, limit? = some limit → (left ++ text ++ right).length ≤ limit) :
    fitting limit? left right text = text := by
  cases limit? with
  | none => rfl
  | some limit =>
      have whole := fits limit rfl
      simp only [List.length_append] at whole
      apply List.take_of_length_le
      omega

/-- The line shows a text between two parts, and the cursor stands behind the text. -/
structure Shows (line : LineBuffer) (left text right : Text) : Prop where
  shown_eq : line.shown = left ++ text ++ right
  cursor_eq : line.cursor = (left ++ text).length

theorem shows_around_cursor {line : LineBuffer} (inside : line.cursor ≤ line.length) :
    line.Shows (line.shown.take line.cursor) [] (line.shown.drop line.cursor) where
  shown_eq := by rw [List.append_nil, List.take_append_drop]
  cursor_eq := by
    rw [List.append_nil, List.length_take]
    exact (Nat.min_eq_left inside).symm

/-- Another text takes the place of one between two parts. -/
theorem replace_between {line : LineBuffer} {left text right : Text}
    (shown_eq : line.shown = left ++ text ++ right) (other : Text) :
    let replaced := line.replace left.length (left ++ text).length other
    replaced.1.Shows left (fitting line.limit? left right other) right ∧
      replaced.2 = replaced.1.cursor := by
  have before : line.shown.take left.length = left := by
    rw [shown_eq, List.append_assoc]
    exact List.take_left
  have after : line.shown.drop (left ++ text).length = right := by
    rw [shown_eq]
    exact List.drop_left
  have ordered : left.length ≤ (left ++ text).length := by
    rw [List.length_append]
    exact Nat.le_add_right _ _
  have inside : (left ++ text).length ≤ line.length := by
    simp only [length, shown_eq, List.length_append]
    omega
  have room := room?_eq_around line ordered inside
  rw [before, after] at room
  have placed := replace_eq_write line other ordered inside
  rw [room] at placed
  rw [placed]
  refine ⟨⟨?_, ?_⟩, rfl⟩
  · rw [shown_write, before, after, fitting_eq_cut]
  · rw [cursor_write, List.length_append, fitting_eq_cut]

/-- A text goes in where two parts meet, and the count says how much of it fits. -/
theorem Shows.insert {line : LineBuffer} {left right : Text} (shows : line.Shows left [] right)
    (text : Text) :
    let inserted := fitting line.limit? left right text
    (line.insert text).1.Shows left inserted right ∧
      (line.insert text).2 = inserted.length := by
  have shown_eq := shows.shown_eq
  have cursor_eq := shows.cursor_eq
  rw [List.append_nil] at shown_eq cursor_eq
  have before : line.shown.take line.cursor = left := by
    rw [shown_eq, cursor_eq]
    exact List.take_left
  have after : line.shown.drop line.cursor = right := by
    rw [shown_eq, cursor_eq]
    exact List.drop_left
  have room : line.room? 0 =
      line.limit?.map fun limit => limit - (left.length + right.length) := by
    rw [room?, length, shown_eq, List.length_append, Nat.sub_zero]
  have same : cut (line.room? 0) text = fitting line.limit? left right text := by
    rw [room, fitting_eq_cut]
  simp only [LineBuffer.insert, same]
  split
  next nothing =>
    rw [nothing]
    exact ⟨shows, rfl⟩
  · refine ⟨⟨?_, ?_⟩, rfl⟩
    · rw [shown_write, before, after]
    · rw [cursor_write, cursor_eq, List.length_append]

/-- What is cut to the room of two texts is cut from the second once the first has its part. -/
theorem cut_append (room? : Option Nat) (first second : Text) :
    cut room? (first ++ second) =
      cut room? first ++
        cut (room?.map fun room => room - (cut room? first).length) second := by
  cases room? with
  | none => rfl
  | some room =>
      have left : room - min room first.length = room - first.length := by omega
      simp only [cut, Option.map_some, List.take_append, List.length_take, left]

/-- A text behind the one that was written last makes one text with it. -/
theorem write_append (buffer : LineBuffer) {start : Nat} (stop : Nat) (first second : Text)
    (before after : Nat) (inside : start ≤ buffer.length) :
    (buffer.write start stop first before).write (start + first.length) (start + first.length)
        second after =
      buffer.write start stop (first ++ second) after := by
  have placed : (buffer.shown.take start ++ first).length = start + first.length := by
    rw [List.length_append, List.length_take]
    exact congrArg (· + first.length) (Nat.min_eq_left inside)
  have head : (buffer.write start stop first before).shown.take (start + first.length) =
      buffer.shown.take start ++ first := by
    rw [shown_write]
    exact List.take_left' placed
  have tail : (buffer.write start stop first before).shown.drop (start + first.length) =
      buffer.shown.drop stop := by
    rw [shown_write]
    exact List.drop_left' placed
  simp only [write] at head tail ⊢
  rw [head, tail, ← List.append_assoc]
  rfl

/-- What is written at the cursor takes its length from the room. -/
theorem room?_write_at (buffer : LineBuffer) {offset : Nat} (inserted : Text) (cursor : Nat)
    (inside : offset ≤ buffer.length) :
    (buffer.write offset offset inserted cursor).room? 0 =
      (buffer.room? 0).map fun room => room - inserted.length := by
  have longer : (buffer.write offset offset inserted cursor).length =
      buffer.length + inserted.length := by
    simp only [length, shown_write, List.length_append, List.length_take, List.length_drop]
      at inside ⊢
    omega
  simp only [room?, longer, limit?_write, Option.map_map, Nat.sub_zero]
  congr 1
  funext limit
  simp only [Function.comp_apply]
  omega

/-- Nothing of a text is left if there is none, or no room. -/
theorem cut_eq_nil {room? : Option Nat} {text : Text} (nothing : cut room? text = []) :
    text = [] ∨ room? = some 0 := by
  cases room? with
  | none => exact .inl nothing
  | some room => exact (List.take_eq_nil_iff.1 nothing).symm.imp_right fun full => by rw [full]

/-- Two texts go in one after the other as they do at once. -/
theorem insert_insert {buffer : LineBuffer} (inside : buffer.cursor ≤ buffer.length)
    (first second : Text) :
    ((buffer.insert first).1.insert second).1 = (buffer.insert (first ++ second)).1 := by
  by_cases nothing : cut (buffer.room? 0) first = []
  · have same : (buffer.insert first).1 = buffer := by
      simp only [insert, nothing, if_true]
    rw [same]
    rcases cut_eq_nil nothing with rfl | full
    · rfl
    · simp only [insert, full, cut, List.take_zero, if_true]
  · have placed : (buffer.insert first).1 =
        buffer.write buffer.cursor buffer.cursor (cut (buffer.room? 0) first)
          (buffer.cursor + (cut (buffer.room? 0) first).length) := by
      simp only [insert, nothing, if_false]
    have whole := cut_append (buffer.room? 0) first second
    have filled : cut (buffer.room? 0) (first ++ second) ≠ [] := by
      rw [whole]
      exact List.append_ne_nil_of_left_ne_nil nothing _
    have once : (buffer.insert (first ++ second)).1 =
        buffer.write buffer.cursor buffer.cursor (cut (buffer.room? 0) (first ++ second))
          (buffer.cursor + (cut (buffer.room? 0) (first ++ second)).length) := by
      simp only [insert, filled, if_false]
    rw [once, placed, insert, room?_write_at buffer _ _ inside, cursor_write, whole]
    split
    next last => rw [last, List.append_nil]
    · rw [write_append buffer _ _ _ _ _ inside, List.length_append, Nat.add_assoc]

end Promptline.LineBuffer
