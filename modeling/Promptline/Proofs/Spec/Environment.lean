/-
This file says what a completer program is told about the cursor. The halves of the line make up
the line, and the two offsets of the cursor count the characters and the bytes of the first half.
-/

import Promptline.Spec.Context
import Promptline.Text.Bytes

namespace Promptline

namespace Text

/-- The size is the number of bytes. -/
theorem utf8Size_eq_length_utf8 (text : Text) : text.utf8Size = text.utf8.length := by
  induction text with
  | nil => rfl
  | cons c text inductionHypothesis =>
      have split : utf8 (c :: text) = String.utf8EncodeChar c ++ utf8 text := rfl
      rw [split, List.length_append, String.length_utf8EncodeChar, ← inductionHypothesis]
      rfl

theorem byteOffset_eq_length_utf8 (text : Text) (index : Nat) :
    text.byteOffset index = (utf8 (text.take index)).length :=
  utf8Size_eq_length_utf8 _

end Text

namespace Context

/-- What a program finds in its environment under a name. -/
def exported? (context : Context) (name : String) : Option Text :=
  context.environment.lookup (Text.of name)

/-- The part of the environment that does not depend on where the cursor is. -/
theorem exported?_line (context : Context) :
    context.exported? "COMP_LINE" = some context.line ∧
      context.exported? "BUFFER" = some context.line ∧
      context.exported? "CURSOR" = some (Text.ofNat context.cursor) ∧
      context.exported? "COMP_POINT" = some (Text.ofNat
        (context.line.byteOffset context.cursor + (context.cursor - context.line.length))) :=
  ⟨rfl, rfl, rfl, rfl⟩

/-- The half before the cursor is there up to the end of the line, and the half behind the cursor
only in front of the end. -/
theorem exported?_halves (context : Context) :
    context.exported? "LBUFFER" = (if context.cursor ≤ context.line.length then
        some (context.line.take context.cursor) else none) ∧
      context.exported? "RBUFFER" = if context.cursor < context.line.length then
        some (context.line.drop context.cursor) else none := by
  have behind : context.line.slice context.cursor context.line.length =
      context.line.drop context.cursor := by rw [Text.slice, List.take_length]
  simp only [exported?, environment, behind]
  rcases Nat.lt_trichotomy context.cursor context.line.length with before | atEnd | past
  · rw [if_pos (Nat.le_of_lt before), if_pos before, if_pos (Nat.le_of_lt before), if_pos before]
    exact ⟨rfl, rfl⟩
  · have outside := Nat.not_lt.2 (Nat.le_of_eq atEnd.symm)
    rw [if_pos (Nat.le_of_eq atEnd), if_neg outside, if_pos (Nat.le_of_eq atEnd), if_neg outside]
    exact ⟨rfl, rfl⟩
  · have outside := Nat.not_lt.2 (Nat.le_of_lt past)
    rw [if_neg (Nat.not_le.2 past), if_neg outside, if_neg (Nat.not_le.2 past), if_neg outside]
    exact ⟨rfl, rfl⟩

/-- No name has two values. -/
theorem nodup_environment (context : Context) : (context.environment.map Prod.fst).Nodup := by
  simp only [environment, List.map_append, apply_ite (List.map Prod.fst), List.map_cons,
    List.map_nil]
  split <;> split <;> decide

/-- Up to the end of the line the halves are the texts before and behind the cursor, and the
offsets count the characters and the bytes of the first one. Behind the end there are no halves,
and the point counts on from the last byte. -/
theorem variables_of_cursor (context : Context) :
    let line := context.line
    let left : Text := line.take context.cursor
    (context.environment.map Prod.fst).Nodup ∧
      context.exported? "COMP_LINE" = some line ∧ context.exported? "BUFFER" = some line ∧
      (context.cursor ≤ line.length →
        context.exported? "LBUFFER" = some left ∧
          ((context.exported? "RBUFFER").isSome ↔ context.cursor < line.length) ∧
          (context.exported? "LBUFFER").getD [] ++ (context.exported? "RBUFFER").getD [] = line ∧
          context.exported? "CURSOR" = some (Text.ofNat left.length) ∧
          context.exported? "COMP_POINT" = some (Text.ofNat left.utf8.length)) ∧
      (line.length < context.cursor →
        context.exported? "LBUFFER" = none ∧ context.exported? "RBUFFER" = none ∧
          context.exported? "COMP_POINT" =
            some (Text.ofNat (line.utf8.length + (context.cursor - line.length)))) := by
  intro line left
  obtain ⟨compLine, buffer, cursor, point⟩ := context.exported?_line
  obtain ⟨before, behind⟩ := context.exported?_halves
  rw [Text.byteOffset_eq_length_utf8] at point
  refine ⟨context.nodup_environment, compLine, buffer, fun inside => ?_, fun past => ?_⟩
  · rw [if_pos inside] at before
    have length : left.length = context.cursor := List.length_take_of_le inside
    rw [Nat.sub_eq_zero_of_le inside, Nat.add_zero] at point
    refine ⟨before, ?_, ?_, ?_, point⟩
    · rw [behind, Option.isSome_ite]
    · rw [before, behind]
      split
      · exact List.take_append_drop context.cursor line
      next atEnd =>
        exact (List.append_nil left).trans (List.take_of_length_le (Nat.not_lt.1 atEnd))
    · rw [cursor, length]
  · rw [if_neg (Nat.not_le.2 past)] at before
    rw [if_neg (Nat.not_lt.2 (Nat.le_of_lt past))] at behind
    have whole : context.line.take context.cursor = line :=
      List.take_of_length_le (Nat.le_of_lt past)
    rw [whole] at point
    exact ⟨before, behind, point⟩

example : (ofLine (Text.of "vi café.txt x") 11).exported? "COMP_POINT" = some (Text.of "12") := by
  decide

end Context

end Promptline
