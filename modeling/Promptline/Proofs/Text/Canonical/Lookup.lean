/-
This file looks code points up by halving. A tree over the rows of an ascending table answers what
the table answers, and it takes few enough steps to check every row of the Unicode tables.
-/

import Mathlib.Data.List.Chain
import Promptline.Text.Canonical.Decomposition

namespace Promptline

variable {A : Type}

/-- The code points of a table grow from row to row. -/
def Ascends (table : List (Nat × A)) : Prop := table.Pairwise fun row other => row.1 < other.1

/-- Neighbouring rows decide whether a table ascends. -/
theorem ascends_of_isChain {table : List (Nat × A)}
    (chain : (table.map Prod.fst).IsChain (· < ·)) : Ascends table :=
  List.pairwise_map.1 (List.isChain_iff_pairwise.1 chain)

/-- The row of a code point is the only one that counts. -/
theorem valueAt?_eq_some_iff {table : List (Nat × A)} (ascends : Ascends table) {n : Nat}
    {value : A} : valueAt? table n = some value ↔ (n, value) ∈ table := by
  induction table with
  | nil => simp [valueAt?]
  | cons row rest inductionHypothesis =>
      obtain ⟨code, found⟩ := row
      obtain ⟨above, others⟩ := List.pairwise_cons.1 ascends
      have absent (small : n ≤ code) : (n, value) ∉ rest := fun member =>
        Nat.not_lt.2 small (above _ member)
      rw [valueAt?, List.mem_cons, Prod.mk.injEq]
      rcases Nat.lt_trichotomy n code with small | rfl | large
      · simp [small, Nat.ne_of_lt small, absent (Nat.le_of_lt small)]
      · simp [absent (Nat.le_refl n), eq_comm]
      · simp [Nat.not_lt.2 (Nat.le_of_lt large), Nat.ne_of_gt large, inductionHypothesis others]

theorem valueAt?_eq_none {table : List (Nat × A)} {n : Nat} (absent : ∀ row ∈ table, row.1 ≠ n) :
    valueAt? table n = none := by
  induction table with
  | nil => rfl
  | cons row rest inductionHypothesis =>
      obtain ⟨other, later⟩ := List.forall_mem_cons.1 absent
      rw [valueAt?, if_neg (Ne.symm other), inductionHypothesis later, ite_self]

/-- A tree of rows, the smaller code points on the left. -/
inductive CodeTree (A : Type) where
  | leaf
  | node (left : CodeTree A) (row : Nat × A) (right : CodeTree A)

namespace CodeTree

def rows : CodeTree A → List (Nat × A)
  | leaf => []
  | node left row right => left.rows ++ row :: right.rows

/-- The comparisons are Boolean functions on numbers, which the kernel computes at once. -/
def find? : CodeTree A → Nat → Option A
  | leaf, _ => none
  | node left row right, n =>
      bif n.blt row.1 then left.find? n
      else bif n.beq row.1 then some row.2 else right.find? n

/-- The first rows of a table become a tree of the given depth, and the others are left. -/
def grow : Nat → List (Nat × A) → CodeTree A × List (Nat × A)
  | 0, table => (leaf, table)
  | depth + 1, table =>
      match grow depth table with
      | (left, []) => (left, [])
      | (left, row :: rest) =>
          match grow depth rest with
          | (right, rest) => (node left row right, rest)

theorem rows_grow (depth : Nat) (table : List (Nat × A)) :
    (grow depth table).1.rows ++ (grow depth table).2 = table := by
  induction depth generalizing table with
  | zero => rfl
  | succ depth inductionHypothesis =>
      have before := inductionHypothesis table
      rw [grow]
      split
      next left grown =>
        rw [grown] at before
        exact before
      next left row rest grown =>
        rw [grown] at before
        have behind := inductionHypothesis rest
        simp only [rows, List.append_assoc, List.cons_append, behind]
        exact before

theorem find?_node (left : CodeTree A) (row : Nat × A) (right : CodeTree A) (n : Nat) :
    (node left row right).find? n =
      if n < row.1 then left.find? n else if n = row.1 then some row.2 else right.find? n := by
  have less : n.blt row.1 = decide (n < row.1) := by simp [← Nat.blt_eq]
  have equal : n.beq row.1 = decide (n = row.1) := by simp [← Nat.beq_eq]
  simp only [find?, less, equal, cond_eq_ite, decide_eq_true_eq]

theorem find?_eq_some_iff {tree : CodeTree A} (ascends : Ascends tree.rows) {n : Nat} {value : A} :
    tree.find? n = some value ↔ (n, value) ∈ tree.rows := by
  induction tree with
  | leaf => simp [find?, rows]
  | node left row right fromLeft fromRight =>
      obtain ⟨code, found⟩ := row
      obtain ⟨ascendsLeft, ascendsRest, apart⟩ := List.pairwise_append.1 ascends
      obtain ⟨above, ascendsRight⟩ := List.pairwise_cons.1 ascendsRest
      have absentLeft (large : code ≤ n) : (n, value) ∉ left.rows := fun member =>
        Nat.not_lt.2 large (apart _ member _ List.mem_cons_self)
      have absentRight (small : n ≤ code) : (n, value) ∉ right.rows := fun member =>
        Nat.not_lt.2 small (above _ member)
      rw [rows, List.mem_append, List.mem_cons, Prod.mk.injEq, find?_node]
      rcases Nat.lt_trichotomy n code with small | rfl | large
      · simp [small, Nat.ne_of_lt small, absentRight (Nat.le_of_lt small), fromLeft ascendsLeft]
      · simp [absentLeft (Nat.le_refl n), absentRight (Nat.le_refl n), eq_comm]
      · simp [Nat.not_lt.2 (Nat.le_of_lt large), Nat.ne_of_gt large,
          absentLeft (Nat.le_of_lt large), fromRight ascendsRight]

/-- A tree with all the rows answers as the table does. -/
theorem find?_grow {depth : Nat} {table : List (Nat × A)} (ascends : Ascends table)
    (whole : (grow depth table).2 = []) (n : Nat) :
    (grow depth table).1.find? n = valueAt? table n := by
  have all : (grow depth table).1.rows = table := by
    have kept := rows_grow depth table
    rwa [whole, List.append_nil] at kept
  refine Option.ext fun value => ?_
  rw [find?_eq_some_iff (all.symm ▸ ascends), all, valueAt?_eq_some_iff ascends]

end CodeTree

end Promptline
