/-
This file shows that a replacement forgets what it replaces: to replace a span and then the text put
there is to replace the span once. The room for the text is what the limit leaves beside the span.
-/

import Promptline.LineBuffer

namespace Promptline.LineBuffer

/-- A write over the text that the last write has put in leaves nothing of it. -/
theorem write_write (buffer : LineBuffer) {start : Nat} (stop : Nat) (first second : Text)
    (before after : Nat) (inside : start ≤ buffer.length) :
    (buffer.write start stop first before).write start (start + first.length) second after =
      buffer.write start stop second after := by
  have placed : (buffer.shown.take start).length = start := by
    rw [List.length_take]
    exact Nat.min_eq_left inside
  have head :
      (buffer.write start stop first before).shown.take start = buffer.shown.take start := by
    rw [shown_write, List.append_assoc]
    exact List.take_left' placed
  have tail : (buffer.write start stop first before).shown.drop (start + first.length) =
      buffer.shown.drop stop := by
    rw [shown_write]
    exact List.drop_left' (by rw [List.length_append, placed])
  simp only [write] at head tail ⊢
  rw [head, tail]
  rfl

/-- A span inside the text is replaced as it stands. -/
theorem replace_eq_write (buffer : LineBuffer) {start stop : Nat} (text : Text)
    (ordered : start ≤ stop) (inside : stop ≤ buffer.length) :
    buffer.replace start stop text =
      let inserted := cut (buffer.room? (stop - start)) text
      (buffer.write start stop inserted (start + inserted.length), start + inserted.length) := by
  have first : min start buffer.length = start := Nat.min_eq_left (Nat.le_trans ordered inside)
  have last : max start (min stop buffer.length) = stop := by omega
  simp only [replace, first, last]

/-- The room beside a span is the limit without the text around the span. -/
theorem room?_eq_around (buffer : LineBuffer) {start stop : Nat} (ordered : start ≤ stop)
    (inside : stop ≤ buffer.length) :
    buffer.room? (stop - start) = buffer.limit?.map fun limit =>
      limit - ((buffer.shown.take start).length + (buffer.shown.drop stop).length) := by
  have around : buffer.length - (stop - start) =
      (buffer.shown.take start).length + (buffer.shown.drop stop).length := by
    simp only [List.length_take, List.length_drop]
    simp only [length] at inside ⊢
    omega
  rw [room?, around]

/-- A replaced text ends inside the line, and its start stays where it was. -/
theorem replace_span_inside (buffer : LineBuffer) {start stop : Nat} (text : Text)
    (ordered : start ≤ stop) (inside : stop ≤ buffer.length) :
    start ≤ (buffer.replace start stop text).2 ∧
      (buffer.replace start stop text).2 ≤ (buffer.replace start stop text).1.length := by
  rw [replace_eq_write buffer text ordered inside]
  dsimp only
  simp only [length, shown_write, List.length_append, List.length_take,
    List.length_drop] at inside ⊢
  omega

/-- Of two texts put into one span after the other only the second is seen. -/
theorem replace_replace (buffer : LineBuffer) {start stop : Nat} (first second : Text)
    (ordered : start ≤ stop) (inside : stop ≤ buffer.length) :
    (buffer.replace start stop first).1.replace start (buffer.replace start stop first).2 second =
      buffer.replace start stop second := by
  obtain ⟨ordered', inside'⟩ := replace_span_inside buffer first ordered inside
  have start_le : start ≤ buffer.length := Nat.le_trans ordered inside
  rw [replace_eq_write _ second ordered' inside', replace_eq_write buffer second ordered inside]
  have room : (buffer.replace start stop first).1.room?
      ((buffer.replace start stop first).2 - start) = buffer.room? (stop - start) := by
    have shorter : (buffer.replace start stop first).1.length -
        ((buffer.replace start stop first).2 - start) = buffer.length - (stop - start) := by
      rw [replace_eq_write buffer first ordered inside]
      simp only [length, shown_write, List.length_append, List.length_take, List.length_drop]
        at inside ⊢
      omega
    have limit : (buffer.replace start stop first).1.limit? = buffer.limit? := rfl
    rw [room?, room?, shorter, limit]
  rw [room, replace_eq_write buffer first ordered inside]
  dsimp only
  rw [write_write buffer stop _ _ _ _ start_le]

end Promptline.LineBuffer
