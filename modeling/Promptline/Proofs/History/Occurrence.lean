/-
This file says what it means that a pattern occurs in a text: its characters stand there in order,
and capitals count only if the pattern has one. The leftmost columns exist exactly then.
-/

import Mathlib.Data.List.Forall2
import Promptline.History.Fuzzy

namespace Promptline.Fuzzy

/-- Small letters stand for both cases as long as the cases are not told apart. -/
def fold (sensitive : Bool) (c : Char) : Char := if sensitive then c else c.toLower

theorem agrees_iff {sensitive : Bool} {a b : Char} :
    agrees sensitive a b = true ↔ fold sensitive a = fold sensitive b := by
  cases sensitive <;> simp [agrees, fold]

/-- The characters of the pattern stand in the text in order, with any text between them. -/
def Occurs (pattern text : Text) : Prop :=
  (pattern.map (fold (isCaseSensitive pattern))).Sublist
    (text.map (fold (isCaseSensitive pattern)))

instance (pattern text : Text) : Decidable (Occurs pattern text) :=
  inferInstanceAs (Decidable (List.Sublist _ _))

theorem occurs_nil (text : Text) : Occurs [] text := List.nil_sublist _

/-- The search from the left misses no occurrence. -/
theorem leftmost?_isSome_iff (sensitive : Bool) (column : Nat) (pattern text : Text) :
    (leftmost? sensitive column pattern text).isSome = true ↔
      (pattern.map (fold sensitive)).Sublist (text.map (fold sensitive)) := by
  induction text generalizing column pattern with
  | nil => cases pattern <;> simp [leftmost?]
  | cons c text inductionHypothesis =>
      cases pattern with
      | nil => simp [leftmost?]
      | cons p pattern =>
          simp only [leftmost?, List.map_cons]
          split
          next same =>
            rw [agrees_iff.1 same, List.cons_sublist_cons, Option.isSome_map]
            exact inductionHypothesis (column + 1) pattern
          next other =>
            have apart : fold sensitive p ≠ fold sensitive c := fun same =>
              other (agrees_iff.2 same)
            rw [inductionHypothesis (column + 1) (p :: pattern), List.cons_sublist_cons',
              List.map_cons]
            simp [apart]

/-- Every pattern character agrees with the text at its column. -/
theorem leftmost?_agrees {sensitive : Bool} {column : Nat} {pattern text : Text}
    {columns : List Nat} (found : leftmost? sensitive column pattern text = some columns) :
    List.Forall₂ (fun p first => column ≤ first ∧
      ∃ c, text[first - column]? = some c ∧ agrees sensitive p c = true) pattern columns := by
  induction text generalizing column pattern columns with
  | nil =>
      cases pattern with
      | nil =>
          obtain rfl := Option.some.inj found
          exact .nil
      | cons p pattern => simp [leftmost?] at found
  | cons c text inductionHypothesis =>
      -- A column of the rest is one further to the right in the whole text.
      have shift {pattern : Text} {columns : List Nat}
          (found : leftmost? sensitive (column + 1) pattern text = some columns) :
          List.Forall₂ (fun p first => column ≤ first ∧
            ∃ d, (c :: text)[first - column]? = some d ∧ agrees sensitive p d = true)
            pattern columns := by
        refine (inductionHypothesis found).imp fun p first ⟨behind, d, there, same⟩ => ?_
        have further : first - column = first - (column + 1) + 1 := by omega
        refine ⟨by omega, d, ?_, same⟩
        rw [further, List.getElem?_cons_succ]
        exact there
      cases pattern with
      | nil =>
          obtain rfl := Option.some.inj found
          exact .nil
      | cons p pattern =>
          simp only [leftmost?] at found
          split at found
          next same =>
            obtain ⟨rest, others, rfl⟩ := Option.map_eq_some_iff.1 found
            refine .cons ⟨Nat.le_refl _, c, ?_, same⟩ (shift others)
            rw [Nat.sub_self, List.getElem?_cons_zero]
          next other => exact shift found

/-- The columns of a match go from left to right. -/
theorem leftmost?_ascending {sensitive : Bool} {column : Nat} {pattern text : Text}
    {columns : List Nat} (found : leftmost? sensitive column pattern text = some columns) :
    (∀ first ∈ columns, column ≤ first) ∧ columns.Pairwise (· < ·) := by
  induction text generalizing column pattern columns with
  | nil =>
      cases pattern with
      | nil =>
          obtain rfl := Option.some.inj found
          exact ⟨by simp, .nil⟩
      | cons p pattern => simp [leftmost?] at found
  | cons c text inductionHypothesis =>
      cases pattern with
      | nil =>
          obtain rfl := Option.some.inj found
          exact ⟨by simp, .nil⟩
      | cons p pattern =>
          simp only [leftmost?] at found
          split at found
          next same =>
            obtain ⟨rest, others, rfl⟩ := Option.map_eq_some_iff.1 found
            obtain ⟨behind, ascending⟩ := inductionHypothesis others
            refine ⟨?_, .cons behind ascending⟩
            rw [List.forall_mem_cons]
            exact ⟨Nat.le_refl _, fun first member => Nat.le_of_succ_le (behind first member)⟩
          next other =>
            obtain ⟨behind, ascending⟩ := inductionHypothesis found
            exact ⟨fun first member => Nat.le_of_succ_le (behind first member), ascending⟩

end Promptline.Fuzzy
