/-
This file cuts parts of a text into clusters. A cluster that is cut again stays whole, and in a text
of separate characters every cluster is one character.
-/

import Mathlib.Algebra.GroupWithZero.Nat
import Promptline.Proofs.Spec.OneLine
import Promptline.Screen.Frame

namespace Promptline

namespace Text

/-- An open cluster that a cut of the whole text has led to is cut as the text itself. -/
theorem clusters_of_mem_clustersFrom {tail : ClusterEnd} {held text cluster : Text}
    (opened : ∀ rest, clusters (held.reverse ++ rest) = clustersFrom tail held rest)
    (found : cluster ∈ clustersFrom tail held text) : cluster.clusters = [cluster] := by
  induction text generalizing tail held with
  | nil =>
      obtain rfl := List.mem_singleton.1 found
      have alone := opened []
      rwa [List.append_nil] at alone
  | cons c rest inductionHypothesis =>
      simp only [clustersFrom] at found
      split at found
      next joined =>
        refine inductionHypothesis (fun more => ?_) found
        have further := opened (c :: more)
        simp only [clustersFrom, joined, if_true] at further
        simpa using further
      next apart =>
        rcases List.mem_cons.1 found with rfl | later
        · have alone := opened []
          rwa [List.append_nil] at alone
        · exact inductionHypothesis (fun _ => rfl) later

/-- A cluster of a text is one cluster by itself. -/
theorem clusters_of_mem_clusters {text cluster : Text} (found : cluster ∈ text.clusters) :
    cluster.clusters = [cluster] := by
  cases text with
  | nil => exact absurd found List.not_mem_nil
  | cons c rest => exact clusters_of_mem_clustersFrom (fun _ => rfl) found

/-- Every character is a cluster of its own. -/
def Separate (text : Text) : Prop := text.clusters = text.map fun c => [c]

instance (text : Text) : Decidable text.Separate :=
  inferInstanceAs (Decidable (text.clusters = text.map fun c => [c]))

/-- The first cluster starts with what it holds already. -/
theorem exists_clustersFrom_eq_cons (tail : ClusterEnd) (held text : Text) :
    ∃ more others, clustersFrom tail held text = (held.reverse ++ more) :: others := by
  induction text generalizing tail held with
  | nil => exact ⟨[], [], by simp [clustersFrom]⟩
  | cons c rest inductionHypothesis =>
      simp only [clustersFrom]
      split
      · obtain ⟨more, others, cut⟩ :=
          inductionHypothesis (tail.push (ClusterClass.ofChar c)) (c :: held)
        exact ⟨c :: more, others, by simp [cut]⟩
      · exact ⟨[], _, by rw [List.append_nil]⟩

/-- The next character starts a cluster of its own, and so do all others. -/
theorem separate_cons_cons {c d : Char} {rest : Text} :
    Separate (c :: d :: rest) ↔
      (ClusterEnd.start (ClusterClass.ofChar c)).joins (ClusterClass.ofChar d) = false ∧
        Separate (d :: rest) := by
  simp only [Separate, clusters, clustersFrom]
  split
  next joined =>
    obtain ⟨more, others, cut⟩ := exists_clustersFrom_eq_cons
      ((ClusterEnd.start (ClusterClass.ofChar c)).push (ClusterClass.ofChar d)) [d, c] rest
    simp [cut, joined]
  next apart => simp [apart]

/-- The characters before a place are separate if all are. -/
theorem Separate.take {text : Text} (separate : text.Separate) (place : Nat) :
    Separate (text.take place) := by
  induction text generalizing place with
  | nil => simpa using separate
  | cons c rest inductionHypothesis =>
      cases place with
      | zero => rfl
      | succ place =>
          cases rest with
          | nil => simpa using separate
          | cons d rest =>
              obtain ⟨apart, others⟩ := separate_cons_cons.1 separate
              cases place with
              | zero => rfl
              | succ place =>
                  exact separate_cons_cons.2 ⟨apart, inductionHypothesis others (place + 1)⟩

/-- The clusters before a place are those of the text before it. -/
theorem Separate.clusters_take {text : Text} (separate : text.Separate) (place : Nat) :
    clusters (text.take place) = text.clusters.take place := by
  rw [separate.take place, separate, List.map_take]

/-- A text is as wide as its clusters together. -/
theorem width_eq_sum (text : Text) : text.width = (text.clusters.map clusterWidth).sum := by
  rw [width, List.sum_eq_foldr, List.foldr_map]

/-- Every character is a cluster that takes up room. -/
structure Plain (text : Text) : Prop where
  clean : text.OnOneLine
  separate : text.Separate

instance (text : Text) : Decidable text.Plain :=
  decidable_of_iff (text.OnOneLine ∧ text.Separate)
    ⟨fun both => ⟨both.1, both.2⟩, fun plain => ⟨plain.clean, plain.separate⟩⟩

theorem Plain.take {text : Text} (plain : text.Plain) (place : Nat) : Plain (text.take place) :=
  ⟨plain.clean.of_subset (List.take_subset place text), plain.separate.take place⟩

/-- The clusters of a plain text are drawn as wide as they are. -/
theorem Plain.drawnWidth_eq {text cluster : Text} (plain : text.Plain)
    (member : cluster ∈ text.clusters) : cluster.drawnWidth = cluster.clusterWidth := by
  rw [plain.separate] at member
  obtain ⟨c, held, rfl⟩ := List.mem_map.1 member
  have positive : 0 < clusterWidth [c] := by
    simp only [clusterWidth, plain.clean c held, Bool.false_eq_true, if_false]
    split <;> decide
  exact Nat.max_eq_left positive

theorem Separate.width_eq {text : Text} (separate : text.Separate) :
    text.width = (text.map fun c => clusterWidth [c]).sum := by
  rw [width_eq_sum, separate, List.map_map]
  rfl

end Text

/-- Characters of these classes join neither each other nor anything before them. -/
def ClusterClass.isSolid : ClusterClass → Bool
  | other | pictograph | consonant | openSyllable | closedSyllable => true
  | _ => false

/-- The character takes up room and stays apart from others of its kind. -/
def isSolid (c : Char) : Bool := !isControl c && (ClusterClass.ofChar c).isSolid

theorem ClusterEnd.joins_of_isSolid {first second : ClusterClass} (before : first.isSolid = true)
    (after : second.isSolid = true) : (start first).joins second = false := by
  cases first <;> cases second <;> first | rfl | contradiction

namespace Text

/-- All characters stay apart, wherever the text is cut and whatever other such text follows. -/
def Solid (text : Text) : Prop := ∀ c ∈ text, isSolid c = true

instance (text : Text) : Decidable text.Solid :=
  List.decidableBAll (fun c => isSolid c = true) text

theorem Solid.append {first second : Text} (before : first.Solid) (after : second.Solid) :
    Solid (first ++ second) := by
  intro c member
  rcases List.mem_append.1 member with early | late
  · exact before c early
  · exact after c late

theorem Solid.of_subset {text part : Text} (solid : text.Solid) (within : part ⊆ text) :
    part.Solid := fun c member => solid c (within member)

theorem Solid.separate {text : Text} (solid : text.Solid) : text.Separate := by
  have classed : ∀ c ∈ text, (ClusterClass.ofChar c).isSolid = true := fun c member =>
    (Bool.and_eq_true_iff.1 (solid c member)).2
  clear solid
  induction text with
  | nil => rfl
  | cons c rest inductionHypothesis =>
      obtain ⟨first, others⟩ := List.forall_mem_cons.1 classed
      cases rest with
      | nil => rfl
      | cons d rest =>
          exact separate_cons_cons.2 ⟨ClusterEnd.joins_of_isSolid first
            (others d List.mem_cons_self), inductionHypothesis others⟩

theorem Solid.plain {text : Text} (solid : text.Solid) : text.Plain where
  clean c member := by simpa using (Bool.and_eq_true_iff.1 (solid c member)).1
  separate := solid.separate

theorem Solid.clusters_append {first second : Text} (before : first.Solid)
    (after : second.Solid) : clusters (first ++ second) = first.clusters ++ second.clusters := by
  rw [(before.append after).separate, before.separate, after.separate, List.map_append]

theorem solid_replicate {c : Char} (solid : isSolid c = true) (count : Nat) :
    Solid (List.replicate count c) := fun _ member => List.eq_of_mem_replicate member ▸ solid

theorem width_replicate {c : Char} (solid : isSolid c = true) (count : Nat) :
    width (List.replicate count c) = count * clusterWidth [c] := by
  rw [(solid_replicate solid count).separate.width_eq, List.map_replicate,
    List.sum_replicate_nat]

/-- Every text of the characters is plain. -/
def PlainOver (allowed : Char → Prop) : Prop :=
  ∀ text : Text, (∀ c ∈ text, allowed c) → text.Plain

theorem plainOver_solid : PlainOver fun c => isSolid c = true := fun _ solid => Solid.plain solid

theorem PlainOver.width_append {allowed : Char → Prop} (plain : PlainOver allowed)
    {first second : Text} (before : ∀ c ∈ first, allowed c) (after : ∀ c ∈ second, allowed c) :
    width (first ++ second) = first.width + second.width := by
  have both := plain _ (List.forall_mem_append.2 ⟨before, after⟩)
  rw [both.separate.width_eq, (plain _ before).separate.width_eq,
    (plain _ after).separate.width_eq, List.map_append, List.sum_append]

theorem Solid.width_append {first second : Text} (before : first.Solid) (after : second.Solid) :
    width (first ++ second) = first.width + second.width :=
  plainOver_solid.width_append before after

/-- Leading clusters that fit leave their room to those behind them. -/
theorem takeWidth_append {room : Nat} {first : List Text}
    (fits : (first.map clusterWidth).sum ≤ room) (second : List Text) :
    takeWidth room (first ++ second) =
      first.flatten ++ takeWidth (room - (first.map clusterWidth).sum) second := by
  induction first generalizing room with
  | nil => rfl
  | cons cluster rest inductionHypothesis =>
      simp only [List.map_cons, List.sum_cons] at fits
      simp only [List.cons_append, takeWidth, List.map_cons, List.sum_cons, List.flatten_cons,
        if_pos (Nat.le_trans (Nat.le_add_right _ _) fits), inductionHypothesis (Nat.le_sub_of_add_le
          (Nat.add_comm _ _ ▸ fits)), Nat.sub_sub, List.append_assoc]

/-- What is taken is as wide as some leading clusters that fit. -/
theorem exists_takeWidth_eq (room : Nat) (clusters : List Text) :
    ∃ count, takeWidth room clusters = (clusters.take count).flatten ∧
      ((clusters.take count).map clusterWidth).sum ≤ room := by
  induction clusters generalizing room with
  | nil => exact ⟨0, rfl, Nat.zero_le room⟩
  | cons cluster rest inductionHypothesis =>
      simp only [takeWidth]
      split
      next fits =>
        obtain ⟨count, taken, inside⟩ := inductionHypothesis (room - cluster.clusterWidth)
        refine ⟨count + 1, ?_, ?_⟩
        · rw [taken, List.take_succ_cons, List.flatten_cons]
        · rw [List.take_succ_cons, List.map_cons, List.sum_cons]
          omega
      · exact ⟨0, rfl, Nat.zero_le room⟩

theorem solid_ellipsis : Solid [ellipsis] := by decide +kernel

theorem Solid.truncate {text : Text} (solid : text.Solid) (limit : Nat) :
    Solid (text.truncate limit) := by
  simp only [Text.truncate]
  split
  · exact solid
  · split
    · exact fun c member => absurd member List.not_mem_nil
    · have front := takeWidth_isPrefix (limit - 1) text.clusters
      rw [flatten_clusters] at front
      exact (solid.of_subset front.subset).append solid_ellipsis

/-- A cut behind a front cuts what follows the front. -/
theorem Solid.truncate_append {first second : Text} (before : first.Solid) (after : second.Solid)
    {limit : Nat} (inside : first.width < limit) :
    Text.truncate limit (first ++ second) =
      first ++ second.truncate (limit - first.width) := by
  have total := before.width_append after
  by_cases fits : width (first ++ second) ≤ limit
  · rw [truncate_of_width_le fits, truncate_of_width_le (by omega)]
  · have narrow : (first.clusters.map clusterWidth).sum ≤ limit - 1 := by
      rw [← width_eq_sum]
      omega
    simp only [Text.truncate]
    rw [if_neg fits, if_neg (by omega), if_neg (by omega), if_neg (by omega),
      before.clusters_append after, takeWidth_append narrow, flatten_clusters, ← width_eq_sum,
      Nat.sub_right_comm, List.append_assoc]

end Text

end Promptline
