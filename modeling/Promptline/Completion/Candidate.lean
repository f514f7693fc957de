/-
This file defines completion candidates and where they come from.
-/

import Promptline.Text.Basic

namespace Promptline

/-- The value goes into the line. The other texts are only drawn. -/
structure Candidate where
  value : Text
  display? : Option Text
  description? : Option Text
  /-- The suffix is drawn behind a selected candidate and never inserted. -/
  suffix? : Option Text
  deriving DecidableEq, Repr

namespace Candidate

def ofValue (value : Text) : Candidate := ⟨value, none, none, none⟩

/-- An empty text stands for none. -/
def presence (text : Text) : Option Text := if text = [] then none else some text

def withDisplay (candidate : Candidate) (display : Text) : Candidate :=
  { candidate with display? := presence display }

def withDescription (candidate : Candidate) (description : Text) : Candidate :=
  { candidate with description? := presence description }

def withSuffix (candidate : Candidate) (suffix : Text) : Candidate :=
  { candidate with suffix? := presence suffix }

/-- The box shows the display text, or the value. -/
def label (candidate : Candidate) : Text := candidate.display?.getD candidate.value

def hasDescription (candidate : Candidate) : Bool := candidate.description?.any fun d => !d.isEmpty

end Candidate

/-- A source answers for a line and a cursor in it. A line that starts with one of the sigils is
completed as a whole. -/
structure Source where
  candidates : Text → Nat → List Candidate
  help : Text → Nat → Text
  sigils : List Text

namespace Source

/-- This source has no help and no sigils. -/
def ofCandidates (candidates : Text → Nat → List Candidate) : Source :=
  ⟨candidates, fun _ _ => [], []⟩

/-- The first source with an answer wins, for candidates and help apart. -/
def chain (sources : List Source) : Source where
  candidates line cursor :=
    ((sources.map fun source => source.candidates line cursor).find? fun found =>
      !found.isEmpty).getD []
  help line cursor :=
    ((sources.map fun source => source.help line cursor).find? fun found => !found.isEmpty).getD []
  sigils := (sources.flatMap Source.sigils).eraseDups

/-- Every candidate of a chain comes from one of its sources. -/
theorem exists_source_of_mem_chain {sources : List Source} {line : Text} {cursor : Nat}
    {candidate : Candidate} (answered : candidate ∈ (chain sources).candidates line cursor) :
    ∃ source ∈ sources, candidate ∈ source.candidates line cursor := by
  simp only [chain] at answered
  cases found : (sources.map fun source => source.candidates line cursor).find? fun found =>
      !found.isEmpty with
  | none =>
      rw [found] at answered
      exact absurd answered List.not_mem_nil
  | some answer =>
      rw [found] at answered
      obtain ⟨source, asked, rfl⟩ := List.mem_map.1 (List.mem_of_find?_eq_some found)
      exact ⟨source, asked, answered⟩

/-- A nonempty sigil opens the line. -/
def takesWholeLine (source : Source) (line : Text) : Bool :=
  source.sigils.any fun sigil => !sigil.isEmpty && line.startsWith sigil

theorem takesWholeLine_eq_false_iff {source : Source} {line : Text} :
    source.takesWholeLine line = false ↔
      ∀ sigil ∈ source.sigils, sigil ≠ [] → ¬ sigil <+: line := by
  simp [takesWholeLine]

end Source

end Promptline
