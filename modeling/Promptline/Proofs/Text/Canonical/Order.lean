/-
This file proves that the canonical order of a text depends only on the order of the marks of each
class. A mark may be moved over marks of other classes, and characters that are no marks may be
dropped or replaced, before the text is ordered or after it.
-/

import Promptline.Text.Canonical.Order

namespace Promptline

theorem CodeRange.lookup?_of_lt {A : Type} {table : List (Nat × Nat × A)} {n : Nat}
    (below : ∀ row ∈ table.head?, n < row.1) : lookup? table n = none := by
  cases table with
  | nil => rfl
  | cons row rest => rw [lookup?, if_pos (below row rfl)]

theorem combiningClass_of_lt {c : Char} (low : c.toNat < 0x300) : combiningClass c = 0 := by
  have absent : CodeRange.lookup? combiningTable c.toNat = none := by
    refine CodeRange.lookup?_of_lt fun row first => ?_
    obtain rfl : (0x300, 0x314, 230) = row := Option.some.inj first
    exact low
  rw [combiningClass, absent, Option.getD_none]

namespace Text

variable {c d : Char}

theorem placeMark_of_starter (starter : combiningClass c = 0) (text : Text) :
    placeMark c text = c :: text := by
  cases text <;> simp [placeMark, starter]

theorem mem_placeMark {x : Char} {text : Text} : x ∈ placeMark c text ↔ x = c ∨ x ∈ text := by
  induction text with
  | nil => simp [placeMark]
  | cons d rest inductionHypothesis =>
      rw [placeMark]
      split <;> simp [inductionHypothesis, or_left_comm]

theorem mem_canonicalOrder {x : Char} {text : Text} : x ∈ text.canonicalOrder ↔ x ∈ text := by
  induction text with
  | nil => rfl
  | cons c rest inductionHypothesis =>
      rw [canonicalOrder, List.foldr_cons, mem_placeMark, ← canonicalOrder, inductionHypothesis,
        List.mem_cons]

/-- Every mark has at least the class of the character before it. -/
def OrderedFrom : Nat → Text → Prop
  | _, [] => True
  | least, c :: rest =>
      (combiningClass c = 0 ∨ least ≤ combiningClass c) ∧ OrderedFrom (combiningClass c) rest

theorem orderedFrom_placeMark {least : Nat} {text : Text} (ordered : text.OrderedFrom least)
    (placed : combiningClass c = 0 ∨ least ≤ combiningClass c) :
    (placeMark c text).OrderedFrom least := by
  induction text generalizing least with
  | nil => exact ⟨placed, trivial⟩
  | cons d rest inductionHypothesis =>
      obtain ⟨first, later⟩ := ordered
      rw [placeMark]
      split
      next smaller =>
        simp only [Bool.and_eq_true, decide_eq_true_eq] at smaller
        exact ⟨first, inductionHypothesis later (.inr (Nat.le_of_lt smaller.2))⟩
      next larger =>
        simp only [Bool.and_eq_true, decide_eq_true_eq] at larger
        exact ⟨placed, by omega, later⟩

theorem orderedFrom_canonicalOrder (text : Text) : text.canonicalOrder.OrderedFrom 0 := by
  induction text with
  | nil => trivial
  | cons c rest inductionHypothesis =>
      exact orderedFrom_placeMark inductionHypothesis (.inr (Nat.zero_le _))

theorem canonicalOrder_of_orderedFrom {least : Nat} {text : Text}
    (ordered : text.OrderedFrom least) : text.canonicalOrder = text := by
  induction text generalizing least with
  | nil => rfl
  | cons c rest inductionHypothesis =>
      obtain ⟨_, later⟩ := ordered
      rw [canonicalOrder, List.foldr_cons, ← canonicalOrder, inductionHypothesis later]
      cases rest with
      | nil => rfl
      | cons d others =>
          obtain ⟨next, _⟩ := later
          rw [placeMark, if_neg]
          simp only [Bool.and_eq_true, decide_eq_true_eq]
          omega

theorem canonicalOrder_canonicalOrder (text : Text) :
    text.canonicalOrder.canonicalOrder = text.canonicalOrder :=
  canonicalOrder_of_orderedFrom (orderedFrom_canonicalOrder text)

theorem canonicalOrder_append (front back : Text) :
    (front ++ back).canonicalOrder = front.foldr placeMark back.canonicalOrder :=
  List.foldr_append

/-- Only the order of the end of a text matters. -/
theorem canonicalOrder_append_congr (front : Text) {back other : Text}
    (same : back.canonicalOrder = other.canonicalOrder) :
    (front ++ back).canonicalOrder = (front ++ other).canonicalOrder := by
  rw [canonicalOrder_append, canonicalOrder_append, same]

/-- No mark moves over a starter. -/
theorem canonicalOrder_append_starter (front back : Text) (starter : combiningClass c = 0) :
    (front ++ c :: back).canonicalOrder = front.canonicalOrder ++ c :: back.canonicalOrder := by
  have placed (x : Char) (before after : Text) :
      placeMark x (before ++ c :: after) = placeMark x before ++ c :: after := by
    induction before with
    | nil => simp [placeMark, starter]
    | cons d others inductionHypothesis =>
        simp only [placeMark, List.cons_append]
        split
        · rw [inductionHypothesis, List.cons_append]
        · rfl
  induction front with
  | nil => exact placeMark_of_starter starter _
  | cons x others inductionHypothesis =>
      have marked := congrArg (placeMark x) inductionHypothesis
      rwa [placed] at marked

private theorem placeMark_comm_of_lt (mark : 0 < combiningClass c)
    (smaller : combiningClass c < combiningClass d) (text : Text) :
    placeMark c (placeMark d text) = placeMark d (placeMark c text) := by
  have overTaken (rest : Text) : placeMark d (c :: rest) = c :: placeMark d rest := by
    rw [placeMark, if_pos (by simp [mark, smaller])]
  have front (rest : Text) : placeMark c (d :: rest) = c :: d :: rest := by
    rw [placeMark, if_neg (by simp; omega)]
  induction text with
  | nil => rw [placeMark, front, placeMark, overTaken, placeMark]
  | cons x rest inductionHypothesis =>
      by_cases low : 0 < combiningClass x ∧ combiningClass x < combiningClass c
      · have passed (y : Char) (above : combiningClass x < combiningClass y) (others : Text) :
            placeMark y (x :: others) = x :: placeMark y others := by
          rw [placeMark, if_pos (by simp [low.1, above])]
        rw [passed d (by omega), passed c low.2, passed c low.2, passed d (by omega),
          inductionHypothesis]
      · have stopped : placeMark c (x :: rest) = c :: x :: rest := by
          rw [placeMark, if_neg (by simpa using low)]
        rw [stopped, overTaken, placeMark]
        split
        · rw [placeMark, if_neg (by simpa using low)]
        · rw [front]

/-- Marks of different classes may be placed in any order. -/
theorem placeMark_comm (mark : 0 < combiningClass c) (other : 0 < combiningClass d)
    (different : combiningClass c ≠ combiningClass d) (text : Text) :
    placeMark c (placeMark d text) = placeMark d (placeMark c text) := by
  rcases Nat.lt_or_gt_of_ne different with smaller | larger
  · exact placeMark_comm_of_lt mark smaller text
  · exact (placeMark_comm_of_lt other larger text).symm

/-- A mark may be moved to the front over marks of other classes. -/
theorem canonicalOrder_move {marks : Text} (mark : 0 < combiningClass c)
    (others : ∀ d ∈ marks, 0 < combiningClass d ∧ combiningClass d ≠ combiningClass c)
    (rest : Text) :
    canonicalOrder (c :: (marks ++ rest)) = canonicalOrder (marks ++ c :: rest) := by
  induction marks with
  | nil => rfl
  | cons d later inductionHypothesis =>
      obtain ⟨⟨other, different⟩, remaining⟩ := List.forall_mem_cons.1 others
      calc canonicalOrder (c :: (d :: later ++ rest))
          = placeMark d (placeMark c (canonicalOrder (later ++ rest))) :=
            placeMark_comm mark other (Ne.symm different) _
        _ = canonicalOrder (d :: later ++ c :: rest) :=
            congrArg (placeMark d) (inductionHypothesis remaining)

/-- Starters may be dropped or replaced before the marks are ordered. -/
theorem canonicalOrder_filterMap {keep : Char → Option Char}
    (marks : ∀ c, 0 < combiningClass c → keep c = some c) (text : Text) :
    canonicalOrder (text.canonicalOrder.filterMap keep) = canonicalOrder (text.filterMap keep) := by
  have placed (c : Char) (others : Text) :
      canonicalOrder ((placeMark c others).filterMap keep) =
        canonicalOrder ((c :: others).filterMap keep) := by
    induction others with
    | nil => rfl
    | cons d rest inductionHypothesis =>
        rw [placeMark]
        split
        next smaller =>
          simp only [Bool.and_eq_true, decide_eq_true_eq] at smaller
          have first := marks d smaller.1
          have second := marks c (by omega)
          rw [List.filterMap_cons_some second] at inductionHypothesis
          rw [List.filterMap_cons_some first, List.filterMap_cons_some second,
            List.filterMap_cons_some first]
          calc canonicalOrder (d :: (placeMark c rest).filterMap keep)
              = placeMark d (placeMark c (canonicalOrder (rest.filterMap keep))) :=
                congrArg (placeMark d) inductionHypothesis
            _ = canonicalOrder (c :: d :: rest.filterMap keep) :=
                placeMark_comm smaller.1 (by omega) (by omega) _
        · rfl
  induction text with
  | nil => rfl
  | cons c rest inductionHypothesis =>
      have kept (others : Text) : (c :: others).filterMap keep =
          (keep c).toList ++ others.filterMap keep := by
        cases same : keep c <;> simp [same]
      calc canonicalOrder ((canonicalOrder (c :: rest)).filterMap keep)
          = canonicalOrder ((c :: canonicalOrder rest).filterMap keep) := placed c _
        _ = canonicalOrder ((c :: rest).filterMap keep) := by
            rw [kept, kept]
            exact canonicalOrder_append_congr _ inductionHypothesis

end Text

end Promptline
