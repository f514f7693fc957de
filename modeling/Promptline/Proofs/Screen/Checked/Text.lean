/-
This file measures and cuts texts with words that overflow. The checked functions fail where a sum
leaves its word, a difference is negative or a part reaches beyond its whole, and otherwise they
answer what the unchecked ones do.
-/

import Promptline.Proofs.Screen.Row

namespace Promptline

namespace Checked

/-- Columns and rows of the screen are words of 16 bits. -/
def short : Nat := 65536

/-- Texts and lists are counted in words of 64 bits. -/
def long : Nat := 18446744073709551616

/-- No text and no list in the memory has more elements than this. -/
def memory : Nat := 1152921504606846976

def sum? (limit a b : Nat) : Option Nat := if a + b < limit then some (a + b) else none

def product? (limit a b : Nat) : Option Nat := if a * b < limit then some (a * b) else none

def difference? (a b : Nat) : Option Nat := if b ≤ a then some (a - b) else none

def quotient? (a b : Nat) : Option Nat := if b = 0 then none else some (a / b)

def remainder? (a b : Nat) : Option Nat := if b = 0 then none else some (a % b)

/-- The part of a list between two places. -/
def slice? {α : Type} (list : List α) (start stop : Nat) : Option (List α) :=
  if start ≤ stop ∧ stop ≤ list.length then some ((list.take stop).drop start) else none

theorem sum?_of_lt {limit a b : Nat} (inside : a + b < limit) : sum? limit a b = some (a + b) :=
  if_pos inside

theorem sum?_of_le {limit a b : Nat} (outside : limit ≤ a + b) : sum? limit a b = none :=
  if_neg (Nat.not_lt.2 outside)

theorem product?_of_lt {limit a b : Nat} (inside : a * b < limit) :
    product? limit a b = some (a * b) := if_pos inside

theorem difference?_of_le {a b : Nat} (ordered : b ≤ a) : difference? a b = some (a - b) :=
  if_pos ordered

theorem quotient?_of_pos {a b : Nat} (positive : 0 < b) : quotient? a b = some (a / b) :=
  if_neg (Nat.pos_iff_ne_zero.1 positive)

theorem remainder?_of_pos {a b : Nat} (positive : 0 < b) : remainder? a b = some (a % b) :=
  if_neg (Nat.pos_iff_ne_zero.1 positive)

theorem slice?_of_le {α : Type} {list : List α} {start stop : Nat} (ordered : start ≤ stop)
    (inside : stop ≤ list.length) :
    slice? list start stop = some ((list.take stop).drop start) := if_pos ⟨ordered, inside⟩

end Checked

namespace Text

open Checked

/-- The clusters are added to a width one by one. -/
def widthFrom? (used : Nat) : List Text → Option Nat
  | [] => some used
  | cluster :: rest => do
      let next ← sum? long used cluster.clusterWidth
      widthFrom? next rest

def width? (text : Text) : Option Nat := widthFrom? 0 text.clusters

theorem widthFrom?_of_lt {used : Nat} {clusters : List Text}
    (inside : used + (clusters.map clusterWidth).sum < long) :
    widthFrom? used clusters = some (used + (clusters.map clusterWidth).sum) := by
  induction clusters generalizing used with
  | nil => rfl
  | cons cluster rest inductionHypothesis =>
      rw [List.map_cons, List.sum_cons, ← Nat.add_assoc] at inside ⊢
      rw [widthFrom?, sum?_of_lt (by omega)]
      exact inductionHypothesis inside

/-- A character takes two columns at most. -/
theorem width_le (text : Text) : text.width ≤ 2 * text.length := by
  have columns : ∀ clusters : List Text, (∀ cluster ∈ clusters, cluster ≠ []) →
      (clusters.map clusterWidth).sum ≤ 2 * clusters.flatten.length := by
    intro clusters filled
    induction clusters with
    | nil => exact Nat.le_refl 0
    | cons cluster rest inductionHypothesis =>
        obtain ⟨first, others⟩ := List.forall_mem_cons.1 filled
        have positive := List.length_pos_iff.2 first
        have narrow := cluster.clusterWidth_le
        have further := inductionHypothesis others
        rw [List.map_cons, List.sum_cons, List.flatten_cons, List.length_append]
        omega
  have all := columns text.clusters fun cluster => ne_nil_of_mem_clusters
  rwa [← width_eq_sum, flatten_clusters] at all

theorem width?_of_lt {text : Text} (inside : 2 * text.length < long) :
    text.width? = some text.width := by
  have narrow := text.width_le
  rw [width_eq_sum] at narrow ⊢
  have added := @widthFrom?_of_lt 0 text.clusters (by omega)
  rwa [Nat.zero_add] at added

/-- Leading clusters are taken as long as the columns used are within the budget. -/
def takeWidth? (budget used : Nat) : List Text → Option Text
  | [] => some []
  | cluster :: rest => do
      let next ← sum? long used cluster.clusterWidth
      if budget < next then some []
      else do
        let taken ← takeWidth? budget next rest
        some (cluster ++ taken)

theorem takeWidth?_of_lt {budget used : Nat} (small : budget + 2 < long) (inside : used ≤ budget)
    (clusters : List Text) :
    takeWidth? budget used clusters = some (takeWidth (budget - used) clusters) := by
  induction clusters generalizing used with
  | nil => rfl
  | cons cluster rest inductionHypothesis =>
      have narrow := cluster.clusterWidth_le
      have counted : sum? long used cluster.clusterWidth = some (used + cluster.clusterWidth) :=
        sum?_of_lt (by omega)
      simp only [takeWidth?, counted, Option.bind_eq_bind, Option.bind_some, takeWidth]
      by_cases fits : cluster.clusterWidth ≤ budget - used
      · rw [if_neg (by omega), if_pos fits, inductionHypothesis (by omega), Nat.sub_sub]
        rfl
      · rw [if_pos (by omega), if_neg fits]

def truncate? (limit : Nat) (text : Text) : Option Text := do
  let width ← text.width?
  if width ≤ limit then some text
  else if limit = 0 then some []
  else do
    let budget ← difference? limit 1
    let taken ← takeWidth? budget 0 text.clusters
    some (taken ++ [ellipsis])

theorem truncate?_of_lt {limit : Nat} {text : Text} (small : limit < short)
    (inside : 2 * text.length < long) : text.truncate? limit = some (text.truncate limit) := by
  have budget : limit - 1 + 2 < long := by
    simp only [short, long] at small ⊢
    omega
  simp only [truncate?, width?_of_lt inside, Option.bind_eq_bind, Option.bind_some, truncate]
  split
  · rfl
  · split
    · rfl
    next positive =>
      simp only [difference?_of_le (Nat.pos_of_ne_zero positive), Option.bind_some,
        takeWidth?_of_lt budget (Nat.zero_le _), Nat.sub_zero]

theorem length_takeWidth_le (room : Nat) (clusters : List Text) :
    (takeWidth room clusters).length ≤ clusters.flatten.length :=
  (takeWidth_isPrefix room clusters).length_le

/-- A cut adds at most its mark. -/
theorem length_truncate_le (limit : Nat) (text : Text) :
    (text.truncate limit).length ≤ text.length + 1 := by
  rw [truncate]
  split
  · exact Nat.le_succ _
  · split
    · exact Nat.zero_le _
    · have taken := length_takeWidth_le (limit - 1) text.clusters
      rw [flatten_clusters] at taken
      rw [List.length_append, List.length_singleton]
      omega

end Text

end Promptline
