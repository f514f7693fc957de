/-
This file chooses the history command that is suggested behind a draft.
-/

import Promptline.Text.Basic

namespace Promptline.Suggestion

/-- The command starts with the draft and has more to it. -/
def extends? (draft command : Text) : Bool :=
  command.startsWith draft && draft.length < command.length

/-- The text that occurs most often, and of several the one that occurs first. -/
def mostFrequent? (commands : List Text) : Option Text :=
  commands.foldl (fun best? command =>
    match best? with
    | none => some command
    | some best => if commands.count best < commands.count command then some command else best?)
    none

theorem mostFrequent?_mem {commands : List Text} {found : Text}
    (chosen : mostFrequent? commands = some found) : found ∈ commands := by
  have listed : ∀ best, mostFrequent? commands = some best → best ∈ commands := by
    refine List.foldlRecOn (motive := fun best? => ∀ best, best? = some best → best ∈ commands)
      commands _ (by simp) ?_
    intro best? known command member best same
    split at same
    · obtain rfl := Option.some.inj same
      exact member
    · split at same
      · obtain rfl := Option.some.inj same
        exact member
      · exact known best same
  exact listed found chosen

/-- The rest of the most frequent command that extends the draft. -/
def rest? (draft : Text) (commands : List Text) : Option Text :=
  if draft = [] then none
  else (mostFrequent? (commands.filter (extends? draft))).map fun command =>
    command.drop draft.length

/-- A suggestion has text. -/
theorem rest?_ne_nil {draft rest : Text} {commands : List Text}
    (suggested : rest? draft commands = some rest) : rest ≠ [] := by
  simp only [rest?] at suggested
  split at suggested
  · simp at suggested
  · obtain ⟨command, chosen, rfl⟩ := Option.map_eq_some_iff.1 suggested
    have extends_ := (List.mem_filter.1 (mostFrequent?_mem chosen)).2
    simp only [extends?, Bool.and_eq_true, decide_eq_true_eq] at extends_
    rw [ne_eq, List.drop_eq_nil_iff]
    omega

end Promptline.Suggestion
