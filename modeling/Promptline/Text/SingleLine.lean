/-
This file defines the canonical composition of a text and its folding to a single line.
-/

import Promptline.Text.Blank
import Promptline.Text.Canonical.Composition
import Promptline.Text.Canonical.Decomposition

namespace Promptline.Text

/-- The text in Unicode normalization form C. -/
def composed (text : Text) : Text :=
  compose (canonicalOrder (text.flatMap decomposeChar))

/-- A carriage return that stands before a line feed is dropped. -/
def joinLineEnds : Text → Text
  | '\r' :: '\n' :: rest => '\n' :: joinLineEnds rest
  | c :: rest => c :: joinLineEnds rest
  | [] => []

/-- Line ends and tabs become spaces, and the other control characters have no place on a line. -/
def onLine? (c : Char) : Option Char :=
  if c = '\n' ∨ c = '\r' ∨ c = '\t' then some ' ' else if isControl c then none else some c

theorem isControl_eq_false_of_onLine? {c d : Char} (kept : onLine? c = some d) :
    isControl d = false := by
  simp only [onLine?] at kept
  split at kept
  · obtain rfl := Option.some.inj kept
    decide
  · split at kept
    · simp at kept
    next control =>
      obtain rfl := Option.some.inj kept
      simpa using control

/-- A text that enters the input line is composed and holds no control character. -/
def singleLine (text : Text) : Text := (composed (joinLineEnds text)).filterMap onLine?

theorem isControl_eq_false_of_mem_singleLine {text : Text} {c : Char}
    (found : c ∈ text.singleLine) : isControl c = false := by
  obtain ⟨d, _, kept⟩ := List.mem_filterMap.1 found
  exact isControl_eq_false_of_onLine? kept

end Promptline.Text
