/-
This file compares texts. The order by code points is the lexicographic one, and it is total.
-/

import Mathlib.Data.List.Lex
import Promptline.Text.Basic

namespace Promptline

namespace Text

theorem le_iff {first second : Text} :
    first.le second = true ↔ first < second ∨ first = second := by
  induction first generalizing second with
  | nil => cases second <;> simp [le]
  | cons a first inductionHypothesis =>
      cases second with
      | nil => simp [le]
      | cons b second =>
          have smaller : a.val < b.val ↔ a < b := Iff.rfl
          simp only [le, Bool.or_eq_true, decide_eq_true_eq, Bool.and_eq_true,
            inductionHypothesis, List.cons_lt_cons_iff, List.cons.injEq, smaller]
          grind

theorem le_total (first second : Text) : (first.le second || second.le first) = true := by
  induction first generalizing second with
  | nil => simp [le]
  | cons a first inductionHypothesis =>
      cases second with
      | nil => simp [le]
      | cons b second =>
          have compared := inductionHypothesis second
          by_cases same : a = b
          · subst same
            simpa [le] using compared
          · have apart : a.val.toNat ≠ b.val.toNat := fun equal =>
              same (Char.ext (UInt32.toNat_inj.1 equal))
            simp only [le, same, Ne.symm same, decide_false, Bool.false_and, Bool.or_false,
              Bool.or_eq_true, decide_eq_true_eq, UInt32.lt_iff_toNat_lt]
            omega

theorem le_trans {first second third : Text} (one : first.le second = true)
    (other : second.le third = true) : first.le third = true := by
  rw [le_iff] at *
  rcases one with smaller | rfl
  · rcases other with smaller' | rfl
    · exact .inl (List.lt_trans smaller smaller')
    · exact .inl smaller
  · exact other

end Text

end Promptline
