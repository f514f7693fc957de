/-
This file says what is left of a text that is cut to a width. Whole clusters stay, as many as leave
room for the mark, and the mark joins the last of them only where that takes no more room.
-/

import Promptline.Proofs.Text.Joining

namespace Promptline

namespace ClusterClass

/-- Control characters never join others. -/
theorem standsAlone_of_isControl {c : Char} (control : isControl c = true) :
    (ofChar c).standsAlone = true := by
  have codes : ∀ n < 160, n ≤ 0x1F ∨ 0x7F ≤ n → (ofCode n).standsAlone = true := by
    decide +kernel
  simp only [isControl, Bool.or_eq_true, Bool.and_eq_true, decide_eq_true_eq,
    UInt32.le_iff_toNat_le] at control
  apply codes c.toNat
  · change c.val.toNat < 160
    rcases control with low | ⟨_, high⟩
    · exact Nat.lt_of_le_of_lt low (by decide)
    · exact Nat.lt_of_le_of_lt high (by decide)
  · exact control.imp_right And.left

end ClusterClass

theorem ClusterEnd.joins_of_standsAlone {first next : ClusterClass}
    (alone : first.standsAlone = true) (other : next ≠ .lineFeed) :
    (start first).joins next = false := by
  cases first <;> cases next <;> first | rfl | contradiction

namespace Text

/-- The text holds the first clusters of another one and nothing else. -/
def IsFront (front text : Text) : Prop := ∃ count, front = (text.clusters.take count).flatten

/-- The first clusters stay what they are without those behind them. -/
theorem exists_front_of_clustersFrom (tail : ClusterEnd) (held text : Text) (count : Nat) :
    ∃ front, ((clustersFrom tail held text).take (count + 1)).flatten = held.reverse ++ front ∧
      clustersFrom tail held front = (clustersFrom tail held text).take (count + 1) := by
  induction text generalizing tail held count with
  | nil => exact ⟨[], by simp [clustersFrom], by simp [clustersFrom]⟩
  | cons c rest inductionHypothesis =>
      by_cases joined : tail.joins (ClusterClass.ofChar c) = true
      · obtain ⟨front, made, cut⟩ :=
          inductionHypothesis (tail.push (ClusterClass.ofChar c)) (c :: held) count
        refine ⟨c :: front, ?_, ?_⟩
        · rw [clustersFrom, if_pos joined, made, List.reverse_cons, List.append_assoc,
            List.singleton_append]
        · rw [clustersFrom, clustersFrom, if_pos joined, if_pos joined, cut]
      · cases count with
        | zero => exact ⟨[], by simp [clustersFrom, joined], by simp [clustersFrom, joined]⟩
        | succ count =>
            obtain ⟨front, made, cut⟩ :=
              inductionHypothesis (.start (ClusterClass.ofChar c)) [c] count
            refine ⟨c :: front, ?_, ?_⟩
            · rw [clustersFrom, if_neg joined, List.take_succ_cons, List.flatten_cons, made,
                List.reverse_singleton, List.singleton_append]
            · rw [clustersFrom, clustersFrom, if_neg joined, if_neg joined, cut,
                List.take_succ_cons]

/-- A cut between clusters keeps them. -/
theorem clusters_flatten_take (text : Text) (count : Nat) :
    clusters (text.clusters.take count).flatten = text.clusters.take count := by
  cases text with
  | nil => simp [clusters]
  | cons c rest =>
      cases count with
      | zero => rfl
      | succ count =>
          obtain ⟨front, made, cut⟩ :=
            exists_front_of_clustersFrom (.start (ClusterClass.ofChar c)) [c] rest count
          rw [clusters, made, ← cut, List.reverse_singleton, List.singleton_append, clusters]

theorem width_flatten_take (text : Text) (count : Nat) :
    width (text.clusters.take count).flatten =
      ((text.clusters.take count).map clusterWidth).sum := by
  rw [width_eq_sum, clusters_flatten_take]

/-- Every run of leading clusters that fits is taken. -/
theorem flatten_take_isPrefix_takeWidth {room count : Nat} {clusters : List Text}
    (fits : ((clusters.take count).map clusterWidth).sum ≤ room) :
    (clusters.take count).flatten <+: takeWidth room clusters := by
  induction clusters generalizing room count with
  | nil => simp
  | cons cluster rest inductionHypothesis =>
      cases count with
      | zero => exact List.nil_prefix
      | succ count =>
          rw [List.take_succ_cons, List.map_cons, List.sum_cons] at fits
          rw [List.take_succ_cons, List.flatten_cons, takeWidth, if_pos (by omega)]
          exact (List.prefix_append_right_inj cluster).2 (inductionHypothesis (by omega))

/-- What follows an open cluster joins the last cluster of the text behind it or none. -/
theorem exists_last_of_clustersFrom {tail : ClusterEnd} {held : Text}
    (opened : ∀ rest, clusters (held.reverse ++ rest) = clustersFrom tail held rest)
    (text : Text) :
    ∃ init last, clustersFrom tail held text = init ++ [last] ∧
      ∀ rest, clustersFrom tail held (text ++ rest) = init ++ clusters (last ++ rest) := by
  induction text generalizing tail held with
  | nil => exact ⟨[], held.reverse, rfl, fun rest => (opened rest).symm⟩
  | cons c text inductionHypothesis =>
      by_cases joined : tail.joins (ClusterClass.ofChar c) = true
      · obtain ⟨init, last, cut, further⟩ := @inductionHypothesis
          (tail.push (ClusterClass.ofChar c)) (c :: held) (fun rest => by
            have longer := opened (c :: rest)
            rw [clustersFrom, if_pos joined] at longer
            rw [← longer, List.reverse_cons, List.append_assoc, List.singleton_append])
        refine ⟨init, last, ?_, fun rest => ?_⟩
        · rw [clustersFrom, if_pos joined, cut]
        · rw [List.cons_append, clustersFrom, if_pos joined, further]
      · obtain ⟨init, last, cut, further⟩ :=
          @inductionHypothesis (.start (ClusterClass.ofChar c)) [c] (fun _ => rfl)
        refine ⟨held.reverse :: init, last, ?_, fun rest => ?_⟩
        · rw [clustersFrom, if_neg joined, cut, List.cons_append]
        · rw [List.cons_append, clustersFrom, if_neg joined, further, List.cons_append]

/-- What follows a text joins its last cluster or none. -/
theorem exists_last_cluster {text : Text} (filled : text ≠ []) :
    ∃ init last, text.clusters = init ++ [last] ∧
      ∀ rest, clusters (text ++ rest) = init ++ clusters (last ++ rest) := by
  cases text with
  | nil => exact absurd rfl filled
  | cons c text => exact exists_last_of_clustersFrom (fun _ => rfl) text

/-- A character behind a cluster joins it or stands alone. -/
theorem clusters_concat {cluster : Text} (whole : cluster.clusters = [cluster]) (c : Char) :
    clusters (cluster ++ [c]) = [cluster ++ [c]] ∨ clusters (cluster ++ [c]) = [cluster, [c]] := by
  obtain ⟨last, opened⟩ := exists_end whole
  rw [opened, clustersFrom]
  split
  · left
    simp [clustersFrom]
  · right
    simp [clustersFrom]

/-- Only control characters take no room. -/
theorem clusterWidth_pos {cluster : Text} (filled : cluster ≠ [])
    (printed : ∀ c, cluster = [c] → isControl c = false) : 0 < cluster.clusterWidth := by
  unfold clusterWidth
  split
  · exact absurd rfl filled
  next c =>
    rw [printed c rfl, if_neg Bool.false_ne_true]
    split <;> decide
  · repeat' split
    all_goals decide

/-- The mark behind a cluster takes one more column at most. -/
theorem width_concat_ellipsis_le {cluster : Text} (whole : cluster.clusters = [cluster])
    (filled : cluster ≠ []) :
    width (cluster ++ [ellipsis]) ≤ cluster.clusterWidth + 1 := by
  have mark : clusterWidth [ellipsis] = 1 := by decide
  rw [width_eq_sum]
  rcases clusters_concat whole ellipsis with joined | apart
  · have small := clusterWidth_le (cluster ++ [ellipsis])
    have printed : ∀ c, cluster = [c] → isControl c = false := by
      rintro c rfl
      apply Bool.eq_false_iff.2
      intro control
      have alone := ClusterClass.standsAlone_of_isControl control
      have separate : (ClusterEnd.start (ClusterClass.ofChar c)).joins
          (ClusterClass.ofChar ellipsis) = false :=
        ClusterEnd.joins_of_standsAlone alone (by decide +kernel)
      rw [List.singleton_append, clusters, clustersFrom, separate] at joined
      simp at joined
    have positive := clusterWidth_pos filled printed
    rw [joined, List.map_singleton, List.sum_singleton]
    omega
  · refine Nat.le_of_eq ?_
    rw [apart, List.map_cons, List.map_singleton, List.sum_cons, List.sum_singleton, mark]

/-- The mark behind a text takes one more column at most. -/
theorem width_append_ellipsis_le (text : Text) : width (text ++ [ellipsis]) ≤ text.width + 1 := by
  by_cases filled : text = []
  · rw [filled]
    decide
  · obtain ⟨init, last, cut, further⟩ := exists_last_cluster filled
    have among : last ∈ text.clusters := by
      rw [cut]
      exact List.mem_append_right init (List.mem_singleton.2 rfl)
    have marked :=
      width_concat_ellipsis_le (clusters_of_mem_clusters among) (ne_nil_of_mem_clusters among)
    rw [width_eq_sum] at marked
    rw [width_eq_sum, width_eq_sum, further, cut]
    simp only [List.map_append, List.sum_append, List.map_singleton, List.sum_singleton]
    omega

/-- A text that fits stays, and of one that does not fit the longest run of whole clusters stays
that leaves a column for the mark. No cut text is wider than its limit. -/
theorem longest_front_of_truncate (text : Text) (limit : Nat) :
    (text.truncate limit).width ≤ limit ∧
      (text.width ≤ limit ∧ text.truncate limit = text ∨
        limit < text.width ∧ limit = 0 ∧ text.truncate limit = [] ∨
        limit < text.width ∧ 0 < limit ∧ ∃ front : Text,
          text.truncate limit = front ++ [ellipsis] ∧ front.IsFront text ∧
            front.width ≤ limit - 1 ∧
            ∀ other : Text, other.IsFront text → other.width ≤ limit - 1 → other <+: front) := by
  simp only [truncate]
  by_cases fits : text.width ≤ limit
  · rw [if_pos fits]
    exact ⟨fits, .inl ⟨fits, rfl⟩⟩
  · rw [if_neg fits]
    by_cases none : limit = 0
    · rw [if_pos none]
      exact ⟨Nat.zero_le limit, .inr (.inl ⟨by omega, none, rfl⟩)⟩
    · rw [if_neg none]
      obtain ⟨count, taken, inside⟩ := exists_takeWidth_eq (limit - 1) text.clusters
      have narrow : (takeWidth (limit - 1) text.clusters).width ≤ limit - 1 := by
        rw [taken, width_flatten_take]
        exact inside
      have marked := width_append_ellipsis_le (takeWidth (limit - 1) text.clusters)
      refine ⟨by omega, .inr (.inr ⟨by omega, by omega, _, rfl, ⟨count, taken⟩, narrow, ?_⟩)⟩
      rintro other ⟨more, rfl⟩ short
      rw [width_flatten_take] at short
      exact flatten_take_isPrefix_takeWidth short

/-- The mark may share a cluster with the character before it. -/
example : clusters (truncate 2 ['\u0600', '\r', '\n', 'a']) = [['\u0600', ellipsis]] := by
  decide +kernel

end Text

end Promptline
