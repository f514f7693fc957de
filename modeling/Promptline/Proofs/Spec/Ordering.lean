/-
This file says what registries there are. Whatever lines have been run, the specifications stand in
the strict order of their commands, so equal specifications make an equal registry.
-/

import Promptline.Proofs.Text.Order
import Promptline.Spec.Builtin

namespace Promptline

/-- The commands come one after the other in the order of their code points. -/
def Spec.Ordered (specs : List Spec) : Prop :=
  specs.Pairwise fun first second => first.command < second.command

namespace Registry

theorem subset_place (spec : Spec) (specs : List Spec) :
    ∀ other ∈ place spec specs, other = spec ∨ other ∈ specs := by
  induction specs with
  | nil => simp [place]
  | cons first rest inductionHypothesis =>
      simp only [place]
      intro other member
      split at member
      · exact (List.mem_cons.1 member).imp_right (List.mem_cons_of_mem first)
      · split at member
        · exact List.mem_cons.1 member
        · rcases List.mem_cons.1 member with rfl | later
          · exact .inr List.mem_cons_self
          · exact (inductionHypothesis other later).imp_right (List.mem_cons_of_mem first)

/-- A specification is placed where its command belongs. -/
theorem ordered_place (spec : Spec) {specs : List Spec} (ordered : Spec.Ordered specs) :
    Spec.Ordered (place spec specs) := by
  induction specs with
  | nil => exact List.pairwise_singleton _ _
  | cons first rest inductionHypothesis =>
      obtain ⟨before, ordered⟩ := List.pairwise_cons.1 ordered
      simp only [place]
      split
      next same =>
        refine .cons (fun other member => ?_) ordered
        rw [same]
        exact before other member
      next other =>
        split
        next earlier =>
          have smaller := (Text.le_iff.1 earlier).resolve_right other
          refine .cons ?_ (.cons before ordered)
          rw [List.forall_mem_cons]
          exact ⟨smaller, fun later member => List.lt_trans smaller (before later member)⟩
        next later =>
          have total := Text.le_total spec.command first.command
          rw [Bool.or_eq_true] at total
          have smaller := (Text.le_iff.1 (total.resolve_left later)).resolve_right (Ne.symm other)
          refine .cons (fun next member => ?_) (inductionHypothesis ordered)
          rcases subset_place spec rest next member with rfl | known
          · exact smaller
          · exact before next known

/-- A new command adds its specification and drops none. -/
theorem perm_place {spec : Spec} {specs : List Spec}
    (new : ∀ other ∈ specs, spec.command ≠ other.command) :
    (place spec specs).Perm (spec :: specs) := by
  induction specs with
  | nil => exact .refl _
  | cons first rest inductionHypothesis =>
      obtain ⟨apart, new⟩ := List.forall_mem_cons.1 new
      simp only [place, if_neg apart]
      split
      · exact .refl _
      · exact ((inductionHypothesis new).cons first).trans (.swap spec first rest)

theorem ordered_insertAll (specs : List Spec) {registry : Registry}
    (ordered : Spec.Ordered registry.specs) :
    Spec.Ordered (specs.foldl insert registry).specs := by
  induction specs generalizing registry with
  | nil => exact ordered
  | cons spec specs inductionHypothesis =>
      exact inductionHypothesis (ordered_place spec ordered)

/-- Specifications of new and different commands are all there once they are inserted. -/
theorem perm_insertAll {specs : List Spec}
    (distinct : specs.Pairwise fun first second => first.command ≠ second.command)
    {registry : Registry}
    (new : ∀ spec ∈ specs, ∀ other ∈ registry.specs, spec.command ≠ other.command) :
    (specs.foldl insert registry).specs.Perm (specs ++ registry.specs) := by
  induction specs generalizing registry with
  | nil => exact .refl _
  | cons spec specs inductionHypothesis =>
      obtain ⟨apart, distinct⟩ := List.pairwise_cons.1 distinct
      obtain ⟨fresh, new⟩ := List.forall_mem_cons.1 new
      have placed := perm_place fresh
      have later : ∀ other ∈ specs, ∀ known ∈ (registry.insert spec).specs,
          other.command ≠ known.command := by
        intro other member known held
        rcases subset_place spec registry.specs known held with rfl | known'
        · exact (apart other member).symm
        · exact new other member known known'
      refine (inductionHypothesis distinct later).trans ?_
      exact (placed.append_left specs).trans List.perm_middle

/-- The order of the commands leaves a registry no choice. -/
theorem eq_of_perm {first second : Registry} (ordered : Spec.Ordered first.specs)
    (ordered' : Spec.Ordered second.specs) (perm : first.specs.Perm second.specs) :
    first = second := by
  have same : first.specs = second.specs :=
    List.Perm.eq_of_pairwise (fun _ _ _ _ one other => absurd other (List.lt_asymm one))
      ordered ordered' perm
  cases first
  cases second
  exact congrArg _ same

theorem ordered_removeAll (commands : List Text) {registry : Registry}
    (ordered : Spec.Ordered registry.specs) :
    Spec.Ordered (CompleteCommand.removeAll registry commands).1.specs := by
  induction commands generalizing registry with
  | nil => exact ordered
  | cons command commands inductionHypothesis =>
      simp only [CompleteCommand.removeAll]
      split
      · exact ordered
      · exact inductionHypothesis (List.Pairwise.filter _ ordered)

/-- A line inserts specifications or removes some, and most lines do neither. -/
theorem ordered_runLine {registry : Registry} (ordered : Spec.Ordered registry.specs)
    (host : CompletionHost) (line : Text) :
    Spec.Ordered (Builtin.runLine registry host line).1.specs := by
  simp only [Builtin.runLine]
  split
  · exact ordered
  · exact ordered
  next command _ =>
    cases command with
    | register specs => exact ordered_insertAll specs ordered
    | remove commands => exact ordered_removeAll commands ordered
    | print commands => cases commands <;> exact ordered
  · exact ordered

/-- A reachable registry is an empty one that has seen any lines since. -/
inductive Reachable : Registry → Prop where
  | empty : Reachable .empty
  | runLine {registry : Registry} (reachable : Reachable registry) (host : CompletionHost)
      (line : Text) : Reachable (Builtin.runLine registry host line).1

theorem Reachable.ordered {registry : Registry} (reachable : registry.Reachable) :
    Spec.Ordered registry.specs := by
  induction reachable with
  | empty => exact .nil
  | runLine _ host line inductionHypothesis => exact ordered_runLine inductionHypothesis host line

end Registry

end Promptline
