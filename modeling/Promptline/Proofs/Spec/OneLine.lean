/-
This file says which texts the line has a place for, and which sources offer no other ones. A word
list can only break a line with control characters that are no white space.
-/

import Promptline.Proofs.Text.Pieces
import Promptline.Spec.Evaluation

namespace Promptline

namespace Text

/-- The text holds no control character, so it can be drawn on one line. -/
def OnOneLine (text : Text) : Prop := ∀ c ∈ text, isControl c = false

instance (text : Text) : Decidable text.OnOneLine :=
  decidable_of_iff (text.all (fun c => !isControl c) = true) (by simp [OnOneLine])

theorem onOneLine_nil : OnOneLine [] := fun _ member => absurd member List.not_mem_nil

theorem OnOneLine.append {first second : Text} (before : first.OnOneLine)
    (after : second.OnOneLine) : OnOneLine (first ++ second) := by
  intro c member
  rcases List.mem_append.1 member with early | late
  · exact before c early
  · exact after c late

theorem onOneLine_singleton {c : Char} (printed : isControl c = false) : OnOneLine [c] := by
  intro d member
  obtain rfl := List.mem_singleton.1 member
  exact printed

/-- A part of a text is on one line if the text is. -/
theorem OnOneLine.of_subset {text part : Text} (whole : text.OnOneLine) (within : part ⊆ text) :
    part.OnOneLine := fun c member => whole c (within member)

end Text

/-- For a line without control characters the source offers no other values. -/
def Source.StaysOnLine (source : Source) : Prop :=
  ∀ (line : Text) cursor, line.OnOneLine → cursor ≤ line.length →
    ∀ candidate ∈ source.candidates line cursor, candidate.value.OnOneLine

/-- The specification offers no values with control characters. -/
def Spec.StaysOnLine (spec : Spec) (host : CompletionHost) : Prop :=
  ∀ context, ∀ candidate ∈ spec.evaluate host context .raw, candidate.value.OnOneLine

/-- White space falls away between the words of a list. -/
theorem Spec.staysOnLine_of_wordList {spec : Spec} (listed : spec.kind = .wordList)
    (blank : Text.IsGap (spec.value.filter isControl)) (host : CompletionHost) :
    spec.StaysOnLine host := by
  intro context candidate answered c member
  simp only [evaluate, listed] at answered
  obtain ⟨word, matched, rfl⟩ := List.mem_map.1 answered
  have piece := (List.mem_filter.1 (List.mem_filter.1 matched).1).1
  obtain ⟨held, solid⟩ := Text.mem_of_mem_pieces piece member
  refine Bool.eq_false_iff.2 fun control => ?_
  rw [blank c (List.mem_filter.2 ⟨held, control⟩)] at solid
  exact Bool.noConfusion solid

/-- Commands and specifications that stay on the line make a source that does. -/
theorem Registry.staysOnLine_source {registry : Registry} {host : CompletionHost}
    (commands : ∀ command ∈ registry.commands, command.OnOneLine)
    (specs : ∀ spec ∈ registry.specs, spec.StaysOnLine host) (sigils : List Text) :
    (registry.source host sigils).StaysOnLine := by
  intro line cursor _ _ candidate answered
  simp only [source] at answered
  split at answered
  · obtain ⟨command, matched, rfl⟩ := List.mem_map.1 answered
    exact commands command (List.mem_filter.1 matched).1
  · split at answered
    · exact absurd answered List.not_mem_nil
    next spec found => exact specs spec (List.mem_of_find?_eq_some found) _ candidate answered

end Promptline
