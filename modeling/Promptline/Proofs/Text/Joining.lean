/-
This file tells where clusters join when they are written one behind the other. Only the cluster
before a boundary and the first character behind it matter.
-/

import Promptline.Proofs.Text.Separate

namespace Promptline.Text

/-- Two clusters stay what they are when they are written one behind the other. -/
def Apart (first second : Text) : Prop := clusters (first ++ second) = [first, second]

instance (first second : Text) : Decidable (first.Apart second) :=
  inferInstanceAs (Decidable (_ = _))

/-- A cluster that does not end inside a text is open at the end of the text. -/
theorem exists_end_of_clustersFrom {tail : ClusterEnd} {held text : Text}
    (whole : clustersFrom tail held text = [held.reverse ++ text]) :
    ∃ last, ∀ rest, clustersFrom tail held (text ++ rest) =
      clustersFrom last (text.reverse ++ held) rest := by
  induction text generalizing tail held with
  | nil => exact ⟨tail, fun _ => rfl⟩
  | cons c more inductionHypothesis =>
      rw [clustersFrom] at whole
      split at whole
      next joined =>
        obtain ⟨last, opened⟩ := @inductionHypothesis _ (c :: held) (by simpa using whole)
        refine ⟨last, fun rest => ?_⟩
        rw [List.cons_append, clustersFrom, if_pos joined, opened, List.reverse_cons,
          List.append_assoc, List.singleton_append]
      next =>
        obtain ⟨further, others, cut⟩ :=
          exists_clustersFrom_eq_cons (.start (ClusterClass.ofChar c)) [c] more
        simp [cut] at whole

/-- The end of a cluster decides what joins it. -/
theorem exists_end {cluster : Text} (whole : cluster.clusters = [cluster]) :
    ∃ last, ∀ rest, clusters (cluster ++ rest) = clustersFrom last cluster.reverse rest := by
  cases cluster with
  | nil => simp [clusters] at whole
  | cons c more =>
      obtain ⟨last, opened⟩ := @exists_end_of_clustersFrom _ [c] _ whole
      refine ⟨last, fun rest => ?_⟩
      rw [List.cons_append, clusters, opened, List.reverse_cons]

/-- A character that joins a cluster makes it longer. -/
theorem exists_clustersFrom_cons (tail : ClusterEnd) (cluster : Text) (c : Char) (rest : Text) :
    ∃ longer others, clustersFrom tail (c :: cluster.reverse) rest = longer :: others ∧
      longer ≠ cluster := by
  obtain ⟨more, others, cut⟩ := exists_clustersFrom_eq_cons tail (c :: cluster.reverse) rest
  exact ⟨_, others, cut, by simp⟩

variable {first second : Text}

/-- What follows a cluster is cut by itself if its first cluster stays apart. -/
theorem clusters_append_of_apart (whole : first.clusters = [first])
    (following : second.clusters = [second]) (apart : first.Apart second) (rest : Text) :
    clusters (first ++ (second ++ rest)) = first :: clusters (second ++ rest) := by
  obtain ⟨last, opened⟩ := exists_end whole
  cases second with
  | nil => simp [clusters] at following
  | cons c more =>
      rw [Apart, opened, clustersFrom] at apart
      rw [opened, List.cons_append, clustersFrom]
      split at apart
      next =>
        obtain ⟨longer, others, cut, different⟩ := exists_clustersFrom_cons _ first c more
        rw [cut] at apart
        exact absurd (List.cons.inj apart).1 different
      next separate => rw [if_neg separate, List.reverse_reverse, clusters]

/-- A cluster that does not stay apart makes the one before it longer. -/
theorem exists_clusters_append (whole : first.clusters = [first])
    (following : second.clusters = [second]) (joined : ¬ first.Apart second) (rest : Text) :
    ∃ longer others, clusters (first ++ (second ++ rest)) = longer :: others ∧ longer ≠ first := by
  obtain ⟨last, opened⟩ := exists_end whole
  cases second with
  | nil => simp [clusters] at following
  | cons c more =>
      rw [Apart, opened, clustersFrom] at joined
      rw [opened, List.cons_append, clustersFrom]
      split at joined
      next joins =>
        rw [if_pos joins]
        exact exists_clustersFrom_cons _ first c _
      next =>
        have cut : clusters (c :: more) = clustersFrom (.start (ClusterClass.ofChar c)) [c] more :=
          rfl
        rw [← cut, following, List.reverse_reverse] at joined
        exact absurd rfl joined

end Promptline.Text
