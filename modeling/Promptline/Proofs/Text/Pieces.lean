/-
This file cuts texts at separators. The pieces of two texts in a row are those of the one and then
those of the other, and the words of a line are the pieces between its white space.
-/

import Promptline.Proofs.Text.Boundary

namespace Promptline.Text

/-- Two texts meet in the last piece of the first and the first piece of the second. -/
theorem exists_pieces_append (separates : Char → Bool) (front back : Text) :
    ∃ earlier last first later, pieces separates front = earlier ++ [last] ∧
      pieces separates back = first :: later ∧
      pieces separates (front ++ back) = earlier ++ (last ++ first) :: later := by
  induction front with
  | nil =>
      obtain ⟨first, later, cut⟩ := List.exists_cons_of_ne_nil (pieces_ne_nil separates back)
      exact ⟨[], [], first, later, rfl, cut, cut⟩
  | cons c front inductionHypothesis =>
      obtain ⟨earlier, last, first, later, before, behind, both⟩ := inductionHypothesis
      cases separated : separates c with
      | true =>
          refine ⟨[] :: earlier, last, first, later, ?_, behind, ?_⟩
          · rw [pieces_cons_of_separates separated, before, List.cons_append]
          · rw [List.cons_append, pieces_cons_of_separates separated, both, List.cons_append]
      | false =>
          cases earlier with
          | nil =>
              refine ⟨[], c :: last, first, later, ?_, behind, ?_⟩
              · exact pieces_cons_of_not_separates separated before
              · exact pieces_cons_of_not_separates separated both
          | cons piece earlier =>
              refine ⟨(c :: piece) :: earlier, last, first, later, ?_, behind, ?_⟩
              · exact pieces_cons_of_not_separates separated before
              · exact pieces_cons_of_not_separates separated both

/-- The pieces hold characters of the text, but no separators. -/
theorem mem_of_mem_pieces {separates : Char → Bool} {text piece : Text}
    (cut : piece ∈ pieces separates text) {c : Char} (member : c ∈ piece) :
    c ∈ text ∧ separates c = false := by
  induction text generalizing piece with
  | nil =>
      rw [List.mem_singleton.1 cut] at member
      exact absurd member List.not_mem_nil
  | cons d text inductionHypothesis =>
      obtain ⟨first, later, behind⟩ := List.exists_cons_of_ne_nil (pieces_ne_nil separates text)
      rw [behind] at inductionHypothesis
      have kept {piece : Text} (cut : piece ∈ first :: later) (member : c ∈ piece) :
          c ∈ d :: text ∧ separates c = false :=
        (inductionHypothesis cut member).imp_left (List.mem_cons_of_mem d)
      cases separated : separates d with
      | true =>
          rw [pieces_cons_of_separates separated, behind] at cut
          rcases List.mem_cons.1 cut with rfl | cut
          · exact absurd member List.not_mem_nil
          · exact kept cut member
      | false =>
          rw [pieces_cons_of_not_separates separated behind] at cut
          rcases List.mem_cons.1 cut with rfl | cut
          · rcases List.mem_cons.1 member with rfl | member
            · exact ⟨List.mem_cons_self, separated⟩
            · exact kept List.mem_cons_self member
          · exact kept (List.mem_cons_of_mem first cut) member

/-- All characters but separators are in the pieces. -/
theorem exists_piece_of_mem {separates : Char → Bool} {text : Text} {c : Char} (member : c ∈ text)
    (kept : separates c = false) : ∃ piece ∈ pieces separates text, c ∈ piece := by
  induction text with
  | nil => exact absurd member List.not_mem_nil
  | cons d text inductionHypothesis =>
      obtain ⟨first, later, behind⟩ := List.exists_cons_of_ne_nil (pieces_ne_nil separates text)
      rw [behind] at inductionHypothesis
      cases separated : separates d with
      | true =>
          rw [pieces_cons_of_separates separated, behind]
          rcases List.mem_cons.1 member with rfl | member
          · rw [separated] at kept
            exact absurd kept.symm Bool.false_ne_true
          · obtain ⟨piece, cut, held⟩ := inductionHypothesis member
            exact ⟨piece, List.mem_cons_of_mem [] cut, held⟩
      | false =>
          rw [pieces_cons_of_not_separates separated behind]
          rcases List.mem_cons.1 member with rfl | member
          · exact ⟨c :: first, List.mem_cons_self, List.mem_cons_self⟩
          · obtain ⟨piece, cut, held⟩ := inductionHypothesis member
            rcases List.mem_cons.1 cut with rfl | cut
            · exact ⟨d :: piece, List.mem_cons_self, List.mem_cons_of_mem d held⟩
            · exact ⟨piece, List.mem_cons_of_mem _ cut, held⟩

theorem not_separated {line : Text} (unbroken : '\n' ∉ line) :
    ∀ c ∈ line, decide (c = '\n') = false :=
  fun _ member => decide_eq_false fun feed => unbroken (feed ▸ member)

/-- Joined lines are the pieces between the line feeds. -/
theorem pieces_join {first : Text} {rest : List Text}
    (unbroken : ∀ line ∈ first :: rest, '\n' ∉ line) :
    pieces (· = '\n') (join ['\n'] (first :: rest)) = first :: rest := by
  induction rest generalizing first with
  | nil =>
      rw [join, List.flatMap_nil, List.append_nil]
      exact pieces_eq_singleton (not_separated (unbroken first List.mem_cons_self))
  | cons next rest inductionHypothesis =>
      obtain ⟨unbroken, later⟩ := List.forall_mem_cons.1 unbroken
      have tail := inductionHypothesis later
      rw [join] at tail
      rw [join, List.flatMap_cons, List.append_assoc, List.singleton_append,
        pieces_append_cons (not_separated unbroken) rfl, tail]

/-- The last piece of a text that ends with white space is empty. -/
theorem getLast?_pieces_of_endsBlank {text : Text} (apart : text.endsBlank = true) :
    (pieces isBlank text).getLast? = some [] := by
  cases ends : text.getLast? with
  | none =>
      rw [List.getLast?_eq_none_iff.1 ends]
      rfl
  | some c =>
      obtain ⟨start, rfl⟩ := List.getLast?_eq_some_iff.1 ends
      have blank : isBlank c = true := by simpa [endsBlank] using apart
      obtain ⟨earlier, last, first, later, _, behind, both⟩ :=
        exists_pieces_append isBlank start [c]
      rw [pieces_cons_of_separates blank] at behind
      obtain ⟨rfl, rfl⟩ := List.cons.inj behind
      rw [both, List.getLast?_append]
      rfl

/-- A word at the end of a text is its last one. -/
theorem words_append_word {front word : Text} (apart : front.endsBlank = true)
    (solid : word.IsWord) (filled : word ≠ []) : (front ++ word).words = front.words ++ [word] := by
  obtain ⟨earlier, last, first, later, before, behind, both⟩ :=
    exists_pieces_append isBlank front word
  have empty := getLast?_pieces_of_endsBlank apart
  rw [before, List.getLast?_concat] at empty
  obtain rfl := Option.some.inj empty
  rw [pieces_eq_singleton solid] at behind
  obtain ⟨rfl, rfl⟩ := List.cons.inj behind
  rw [words, both, words, before, List.filter_append, List.filter_append, List.nil_append]
  simp [filled]

theorem isWord_of_mem_words {text word : Text} (listed : word ∈ text.words) : word.IsWord :=
  fun _ member => (mem_of_mem_pieces (List.mem_filter.1 listed).1 member).2

/-- A text without words is white space. -/
theorem isGap_of_words_eq_nil {text : Text} (wordless : text.words = []) : text.IsGap := by
  intro c member
  refine Bool.of_not_eq_false fun kept => ?_
  obtain ⟨piece, cut, held⟩ := exists_piece_of_mem member kept
  have listed : piece ∈ text.words :=
    List.mem_filter.2 ⟨cut, by simpa using List.ne_nil_of_mem held⟩
  rw [wordless] at listed
  exact absurd listed List.not_mem_nil

end Promptline.Text
