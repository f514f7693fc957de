/-
This file says how a call of `complete` changes the registry. It enters the same specification for
each of its commands or removes the commands one after the other, and a registry is known by what it
finds.
-/

import Mathlib.Data.List.Nodup
import Promptline.Proofs.Spec.Ordering

namespace Promptline

namespace Registry

variable {registry : Registry}

theorem nodup_commands (ordered : Spec.Ordered registry.specs) : registry.commands.Nodup := by
  refine List.pairwise_map.2 (ordered.imp fun {first second} smaller same => ?_)
  rw [same] at smaller
  exact List.lt_irrefl _ smaller

/-- A command finds its specification, since no other one has this command. -/
theorem find?_eq_some_iff (ordered : Spec.Ordered registry.specs) (command : Text) (spec : Spec) :
    registry.find? command = some spec ↔ spec ∈ registry.specs ∧ spec.command = command := by
  constructor
  · intro found
    exact ⟨List.mem_of_find?_eq_some found, by simpa using List.find?_some found⟩
  · rintro ⟨held, rfl⟩
    obtain ⟨first, found⟩ : ∃ first, registry.find? spec.command = some first :=
      Option.isSome_iff_exists.1 (List.find?_isSome.2 ⟨spec, held, by simp⟩)
    have same : first.command = spec.command := by simpa using List.find?_some found
    rw [found, List.inj_on_of_nodup_map (nodup_commands ordered)
      (List.mem_of_find?_eq_some found) held same]

/-- Registries are told apart by what they find and by nothing else. -/
theorem eq_of_find? {first second : Registry} (ordered : Spec.Ordered first.specs)
    (ordered' : Spec.Ordered second.specs)
    (same : ∀ command, first.find? command = second.find? command) : first = second := by
  refine eq_of_perm ordered ordered' ((List.perm_ext_iff_of_nodup
    (nodup_commands ordered).of_map (nodup_commands ordered').of_map).2 fun spec => ?_)
  have found := find?_eq_some_iff ordered spec.command spec
  rw [same, find?_eq_some_iff ordered'] at found
  simpa using found.symm

theorem find?_insertAll (registry : Registry) {specOf : Text → Spec}
    (named : ∀ command, (specOf command).command = command) (commands : List Text)
    (command : Text) :
    ((commands.map specOf).foldl insert registry).find? command =
      if command ∈ commands then some (specOf command) else registry.find? command := by
  induction commands generalizing registry with
  | nil => rfl
  | cons first rest inductionHypothesis =>
      rw [List.map_cons, List.foldl_cons, inductionHypothesis, find?_insert, named]
      by_cases later : command ∈ rest
      · simp [later]
      · by_cases same : first = command
        · simp [same]
        · simp [later, same, Ne.symm same]

end Registry

namespace CompleteCommand

/-- The commands whose specifications the call changes. -/
def changed : CompleteCommand → List Text
  | register specs => specs.map Spec.command
  | remove commands => commands
  | print _ => []

/-- What a call does to the specifications of its commands. -/
inductive Change where
  | enter (kind : SpecKind) (value : Text) (options : List Text)
  | remove

namespace Change

def call (change : Change) (commands : List Text) : CompleteCommand :=
  match change with
  | enter kind value options =>
      .register (commands.map fun command => ⟨command, kind, value, options⟩)
  | remove => .remove commands

/-- The specification that a changed command has in the end. -/
def result? (change : Change) (command : Text) : Option Spec :=
  match change with
  | enter kind value options => some ⟨command, kind, value, options⟩
  | remove => none

@[simp] theorem changed_call (change : Change) (commands : List Text) :
    (change.call commands).changed = commands := by
  cases change with
  | enter kind value options => simp [call, changed, Function.comp_def]
  | remove => rfl

end Change

section Removal

variable {registry : Registry} {front : List Text}

/-- A removal finds every command if it names known commands and none of them twice. -/
theorem removeAll_ok_iff (registry : Registry) (commands : List Text) :
    (removeAll registry commands).2 = .ok [] ↔
      commands.Nodup ∧ ∀ command ∈ commands, (registry.find? command).isSome := by
  induction commands generalizing registry with
  | nil => simp [removeAll]
  | cons first rest inductionHypothesis =>
      simp only [removeAll]
      split
      next unknown => simp [unknown]
      next spec known =>
        have erased (command : Text) : ((registry.erase first).find? command).isSome ↔
            first ≠ command ∧ (registry.find? command).isSome := by
          rw [Registry.find?_erase]
          split <;> simp_all
        simp only [inductionHypothesis, erased, List.nodup_cons, List.forall_mem_cons, known,
          Option.isSome_some, true_and]
        constructor
        · rintro ⟨distinct, later⟩
          exact ⟨⟨fun again => (later first again).1 rfl, distinct⟩,
            fun command held => (later command held).2⟩
        · rintro ⟨⟨fresh, distinct⟩, later⟩
          exact ⟨distinct, fun command held =>
            ⟨fun same => fresh (same ▸ held), later command held⟩⟩

theorem find?_removeAll (removed : (removeAll registry front).2 = .ok []) (command : Text) :
    (removeAll registry front).1.find? command =
      if command ∈ front then none else registry.find? command := by
  induction front generalizing registry with
  | nil => rfl
  | cons first rest inductionHypothesis =>
      simp only [removeAll] at removed ⊢
      split at removed
      · simp at removed
      · simp only [inductionHypothesis removed, Registry.find?_erase, List.mem_cons]
        by_cases same : first = command
        · simp [same]
        · simp [same, Ne.symm same]

/-- The last command of a removal is unknown behind it, whether or not it was known before. -/
theorem find?_removeAll_singleton (registry : Registry) (last command : Text) :
    (removeAll registry [last]).1.find? command =
      if last = command then none else registry.find? command := by
  simp only [removeAll]
  split
  next unknown =>
    split
    next same => rw [← same, unknown]
    · rfl
  · exact registry.find?_erase last command

theorem removeAll_append_of_ok (removed : (removeAll registry front).2 = .ok [])
    (back : List Text) :
    removeAll registry (front ++ back) = removeAll (removeAll registry front).1 back := by
  induction front generalizing registry with
  | nil => rfl
  | cons first rest inductionHypothesis =>
      simp only [List.cons_append, removeAll] at removed ⊢
      split at removed
      · simp at removed
      · exact inductionHypothesis removed

theorem removeAll_append_of_refused (refused : (removeAll registry front).2 ≠ .ok [])
    (back : List Text) : removeAll registry (front ++ back) = removeAll registry front := by
  induction front generalizing registry with
  | nil => simp [removeAll] at refused
  | cons first rest inductionHypothesis =>
      simp only [List.cons_append, removeAll] at refused ⊢
      split at refused
      · rfl
      · exact inductionHypothesis refused

end Removal

namespace Change

variable {change : Change} {registry : Registry} {names : List Text}

/-- The call comes to what stands behind these names. -/
def Passes (change : Change) (registry : Registry) (names : List Text) : Prop :=
  change = .remove → names.Nodup ∧ ∀ command ∈ names, (registry.find? command).isSome

theorem find?_run (passes : change.Passes registry names) (last command : Text) :
    ((change.call (names ++ [last])).run registry).1.find? command =
      if command ∈ names ++ [last] then change.result? command else registry.find? command := by
  cases change with
  | enter kind value options => exact registry.find?_insertAll (fun _ => rfl) _ command
  | remove =>
      have removed := (removeAll_ok_iff registry names).2 (passes rfl)
      simp only [call, run, result?, removeAll_append_of_ok removed, find?_removeAll_singleton,
        find?_removeAll removed, List.mem_append, List.mem_singleton]
      by_cases same : last = command
      · simp [same]
      · simp [same, Ne.symm same]

/-- A removal that is refused before its last command is the same for every last command. -/
theorem run_of_not_passes (stops : ¬ change.Passes registry names) (last other : Text) :
    (change.call (names ++ [last])).run registry =
      (change.call (names ++ [other])).run registry := by
  obtain ⟨rfl, refused⟩ := Classical.not_imp.1 stops
  have refused := (removeAll_ok_iff registry names).not.2 refused
  simp only [call, run, removeAll_append_of_refused refused]

theorem ordered_run (ordered : Spec.Ordered registry.specs) (change : Change)
    (commands : List Text) : Spec.Ordered ((change.call commands).run registry).1.specs := by
  cases change with
  | enter kind value options => exact Registry.ordered_insertAll _ ordered
  | remove => exact Registry.ordered_removeAll commands ordered

/-- A call that removes no command twice passes in a registry that it changes everywhere. -/
theorem exists_passes (change : Change) {front : List Text}
    (distinct : change = .remove → front.Nodup) (back : List Text) :
    ∃ registry : Registry, Spec.Ordered registry.specs ∧ change.Passes registry front ∧
      ∀ command ∈ front ++ back, registry.find? command ≠ change.result? command := by
  cases change with
  | enter kind value options =>
      exact ⟨.empty, .nil, fun other => by simp at other, fun _ _ => (Option.some_ne_none _).symm⟩
  | remove =>
      let specOf (command : Text) : Spec := ⟨command, .wordList, [], []⟩
      let registry := ((front ++ back).map specOf).foldl Registry.insert .empty
      have known : ∀ command ∈ front ++ back, registry.find? command = some (specOf command) := by
        intro command held
        rw [Registry.find?_insertAll _ (fun _ => rfl), if_pos held]
      refine ⟨registry, Registry.ordered_insertAll _ .nil,
        fun removal => ⟨distinct removal, fun command held => ?_⟩, fun command held => ?_⟩
      · rw [known command (List.mem_append_left back held), Option.isSome_some]
      · rw [known command held]
        exact Option.some_ne_none _

/-- Calls that differ in the last command agree on every registry if both last commands stand before
them or a removal does not get there, and only then. -/
theorem run_eq_iff (change : Change) (front : List Text) {last other : Text}
    (different : last ≠ other) :
    (∀ registry : Registry, Spec.Ordered registry.specs →
        ((change.call (front ++ [last])).run registry).1 =
          ((change.call (front ++ [other])).run registry).1) ↔
      ¬ ((change = .remove → front.Nodup) ∧ ¬ (last ∈ front ∧ other ∈ front)) := by
  constructor
  · rintro agree ⟨distinct, apart⟩
    obtain ⟨registry, ordered, passes, unlike⟩ := change.exists_passes distinct [last, other]
    have found (command : Text) := find?_run passes last command
    simp only [agree registry ordered, find?_run passes other] at found
    by_cases before : last ∈ front
    · have fresh : other ∉ front := fun again => apart ⟨before, again⟩
      have fixed := found other
      simp only [List.mem_append, List.mem_singleton, fresh, different.symm, or_true, or_self,
        if_true, if_false] at fixed
      exact unlike other (by simp) fixed.symm
    · have fixed := found last
      simp only [List.mem_append, List.mem_singleton, before, different, or_true, or_self,
        if_true, if_false] at fixed
      exact unlike last (by simp) fixed
  · intro excepted registry ordered
    by_cases passes : change.Passes registry front
    · obtain ⟨before, before'⟩ : last ∈ front ∧ other ∈ front := by
        by_contra apart
        exact excepted ⟨fun removal => (passes removal).1, apart⟩
      refine Registry.eq_of_find? (ordered_run ordered _ _) (ordered_run ordered _ _)
        fun command => ?_
      have same : command ∈ front ++ [last] ↔ command ∈ front ++ [other] := by
        simp only [List.mem_append, List.mem_singleton]
        grind
      simp only [find?_run passes, same]
    · rw [run_of_not_passes passes last other]

/-- A call that removes no command twice changes some registry. -/
theorem exists_run_ne (change : Change) {front : List Text}
    (distinct : change = .remove → front.Nodup) (last : Text) :
    ∃ registry : Registry, Spec.Ordered registry.specs ∧
      ((change.call (front ++ [last])).run registry).1 ≠ registry := by
  obtain ⟨registry, ordered, passes, unlike⟩ := change.exists_passes distinct [last]
  refine ⟨registry, ordered, fun same => unlike last (by simp) ?_⟩
  have found := find?_run passes last last
  rwa [same, if_pos (by simp)] at found

end Change

end CompleteCommand

end Promptline
