/-
This file says that the lines of an output do not disturb each other. The readers of a whole output
and of a single line come to the same result where both can read.
-/

import Promptline.Proofs.Json.Array
import Promptline.Proofs.Text.Lines
import Promptline.Spec.Reply

namespace Promptline

theorem Json.isBlank_of_isSpace {c : Char} (space : isSpace c = true) : isBlank c = true := by
  simp only [isSpace, Bool.or_eq_true, decide_eq_true_eq] at space
  rcases space with ((rfl | rfl) | rfl) | rfl <;> rfl

namespace Reply

/-- A whole output is an array. It does not matter whether strings or objects are looked for first,
since an array of both is empty. -/
theorem exists_array_of_ofWhole? {text : Text} {candidates : List Candidate}
    (read : ofWhole? text = some candidates) :
    (∃ items, Json.parse? text = some (.array items)) ∧
      (ofObjects? text).or (ofStrings? text) = some candidates := by
  cases parsed : Json.parse? text with
  | none => simp [ofWhole?, ofStrings?, ofObjects?, parsed] at read
  | some json =>
      cases json with
      | array items =>
          refine ⟨⟨items, rfl⟩, ?_⟩
          cases items with
          | nil => simpa [ofWhole?, ofStrings?, ofObjects?, parsed, Json.items?] using read
          | cons item rest =>
              cases item with
              | string _ | object _ =>
                  simpa [ofWhole?, ofStrings?, ofObjects?, ofObject?, parsed, Json.items?,
                    Json.string?, Json.members?] using read
              | _ =>
                  simp [ofWhole?, ofStrings?, ofObjects?, ofObject?, parsed, Json.items?,
                    Json.string?, Json.members?] at read
      | _ => simp [ofWhole?, ofStrings?, ofObjects?, parsed, Json.items?] at read

/-- An array is no single object. -/
theorem ofSingle?_of_array {text : Text} {items : List Json}
    (parsed : Json.parse? text = some (.array items)) : ofSingle? text = none := by
  simp [ofSingle?, parsed, ofObject?, Json.members?]

/-- A line that can be read as a whole output is read as one. -/
theorem ofLine_of_ofWhole? {line : Text} {candidates : List Candidate}
    (read : ofWhole? line.trim = some candidates) : ofLine line = candidates := by
  obtain ⟨⟨items, parsed⟩, swapped⟩ := exists_array_of_ofWhole? read
  -- Only a line that starts with a bracket or a brace gets to the readers of JSON.
  have bracket : line.trim.startsWith ['['] = true := by
    cases trimmed : line.trim with
    | nil =>
        rw [trimmed] at parsed
        exact absurd parsed (by simp [Json.parse?_nil])
    | cons c rest =>
        have solid : Json.isSpace c = false :=
          Bool.eq_false_iff.2 fun space => Bool.false_ne_true <|
            (Text.isBlank_of_trim_eq_cons trimmed).symm.trans (Json.isBlank_of_isSpace space)
        rw [trimmed] at parsed
        rw [Json.eq_of_parse?_array solid parsed]
        exact Text.startsWith_iff.2 (List.prefix_append ['['] rest)
  simp only [ofLine, bracket, Bool.or_true, if_true, ofSingle?_of_array parsed, Option.none_or,
    swapped, Option.getD_some]

/-- The candidates of a line that have a value. -/
def filled (line : Text) : List Candidate :=
  (ofLine line).filter fun candidate => !candidate.value.isEmpty

theorem ofLine_trim (line : Text) : ofLine line.trim = ofLine line := by
  simp only [ofLine, Text.trim_trim]

theorem ignoresGaps_filled : Text.IgnoresGaps filled where
  trim_eq line := by rw [filled, ofLine_trim, filled]
  nil_eq := rfl

/-- Blank lines can stay, since they have no candidate with a value. -/
theorem flatMap_filled_of_filter (lines : List Text) :
    (lines.filter fun line => !line.trim.isEmpty).flatMap filled = lines.flatMap filled := by
  induction lines with
  | nil => rfl
  | cons line rest inductionHypothesis =>
      rw [List.filter_cons, List.flatMap_cons, ← inductionHypothesis]
      split
      · rfl
      next blank =>
        have empty : line.trim = [] := by simpa using blank
        rw [← ignoresGaps_filled.trim_eq line, empty, ignoresGaps_filled.nil_eq, List.nil_append]

/-- An output that is not read as a whole gives what its lines give. -/
theorem ofOutput_of_not_whole {output : Text} (mixed : ofWhole? output.trim = none) :
    ofOutput output = (output.pieces (· = '\n')).flatMap filled := by
  rw [← ignoresGaps_filled.flatMap_pieces_trim, ← ignoresGaps_filled.flatMap_lines,
    ← flatMap_filled_of_filter]
  simp only [ofOutput, mixed, Option.getD_none]
  split
  next empty => rw [empty]; rfl
  · rw [List.filter_flatMap]
    rfl

/-- The two ways to read a line agree. -/
theorem ofOutput_line {line : Text} (unbroken : '\n' ∉ line) : ofOutput line = filled line := by
  cases read : ofWhole? line.trim with
  | none =>
      rw [ofOutput_of_not_whole read, Text.pieces_eq_singleton (Text.not_separated unbroken),
        List.flatMap_singleton]
  | some candidates =>
      have solid : line.trim ≠ [] := by
        intro empty
        rw [empty] at read
        exact absurd read (by simp [ofWhole?, ofStrings?, ofObjects?, Json.parse?_nil])
      simp only [ofOutput, if_neg solid, read, Option.getD_some, filled, ofLine_of_ofWhole? read]

/-- An output that is not read as a whole gives line by line what each line alone gives. A single
line gives the same whether it is read as a whole output or as a line. -/
theorem ofOutput_join {lines : List Text} (unbroken : ∀ line ∈ lines, '\n' ∉ line) :
    (ofWhole? (Text.join ['\n'] lines).trim = none →
        ofOutput (Text.join ['\n'] lines) = lines.flatMap ofOutput) ∧
      (∀ line ∈ lines, ofOutput line =
        (ofLine line).filter fun candidate => !candidate.value.isEmpty) ∧
      ∀ line candidates, ofWhole? line.trim = some candidates → ofLine line = candidates := by
  refine ⟨fun mixed => ?_, fun line member => ofOutput_line (unbroken line member),
    fun line candidates => ofLine_of_ofWhole?⟩
  have alone : lines.flatMap ofOutput = lines.flatMap filled :=
    congrArg List.flatten
      (List.map_congr_left fun line member => ofOutput_line (unbroken line member))
  rw [ofOutput_of_not_whole mixed, alone]
  cases lines with
  | nil => rfl
  | cons first rest => rw [Text.pieces_join unbroken]

/-- Lines of every kind, among them one of white space and one that is no JSON after all. -/
theorem ofOutput_join_mixed :
    let lines := [Text.of "plain", Text.of "\x7b\"Value\":\"obj\"\x7d\r", Text.of "\u2003",
      Text.of " [\"a\",\"b\"]", Text.of "\x7bnot json", [], Text.of "key\tval"]
    (∀ line ∈ lines, '\n' ∉ line) ∧ ofWhole? (Text.join ['\n'] lines).trim = none ∧
      ofOutput (Text.join ['\n'] lines) = lines.flatMap ofOutput ∧
      lines.flatMap ofOutput =
        [.ofValue (Text.of "plain"), .ofValue (Text.of "obj"), .ofValue (Text.of "a"),
          .ofValue (Text.of "b"), .ofValue (Text.of "\x7bnot json"),
          (Candidate.ofValue (Text.of "key")).withDescription (Text.of "val")] := by
  intro lines
  have unbroken : ∀ line ∈ lines, '\n' ∉ line := by decide
  have mixed : ofWhole? (Text.join ['\n'] lines).trim = none := by decide +kernel
  exact ⟨unbroken, mixed, (ofOutput_join unbroken).1 mixed, by decide +kernel⟩

end Reply

end Promptline
