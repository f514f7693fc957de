/-
This file reads quoted words back. A quoted word is a single word of the line whatever characters it
has, and it ends where the quote ends.
-/

import Promptline.Text.Quoted

namespace Promptline.Text

theorem isBlank_eq_false {c : Char} (above : 33 ≤ c.toNat) (below : c.toNat ≤ 122) :
    isBlank c = false := by
  have bounds : 33 ≤ c.val.toNat ∧ c.val.toNat ≤ 122 := ⟨above, below⟩
  simp only [isBlank, Bool.or_eq_false_iff, Bool.and_eq_false_iff, decide_eq_false_iff_not,
    UInt32.le_iff_toNat_le, ← UInt32.toNat_inj, UInt32.toNat_ofNat]
  omega

/-- A plain character is no quote, no backslash and no white space. -/
theorem not_special_of_isPlain {c : Char} (plain : isPlain c = true) :
    c ≠ '\'' ∧ c ≠ '"' ∧ c ≠ '\\' ∧ isBlank c = false := by
  simp only [isPlain, Bool.or_eq_true, List.contains_iff_mem] at plain
  rcases plain with letter | mark
  · have range : 48 ≤ c.toNat ∧ c.toNat ≤ 122 ∧ c.toNat ≠ 92 := by
      have ends : 'A'.val.toNat = 65 ∧ 'Z'.val.toNat = 90 ∧ 'a'.val.toNat = 97 ∧
          'z'.val.toNat = 122 ∧ '0'.val.toNat = 48 ∧ '9'.val.toNat = 57 := by decide
      have value : c.toNat = c.val.toNat := rfl
      change (decide ('A'.val ≤ c.val ∧ c.val ≤ 'Z'.val) ||
        (decide ('a'.val ≤ c.val) && decide (c.val ≤ 'z'.val)) ||
          (decide ('0'.val ≤ c.val) && decide (c.val ≤ '9'.val))) = true at letter
      simp only [Bool.or_eq_true, Bool.and_eq_true, decide_eq_true_eq,
        UInt32.le_iff_toNat_le] at letter
      omega
    refine ⟨?_, ?_, ?_, isBlank_eq_false (by omega) (by omega)⟩
    · rintro rfl
      exact absurd range (by decide)
    · rintro rfl
      exact absurd range (by decide)
    · rintro rfl
      exact absurd range (by decide)
  · have harmless : "_-./:=@,+%".toList.all (fun c =>
        c ≠ '\'' && c ≠ '"' && c ≠ '\\' && !isBlank c) = true := by decide
    simpa [and_assoc] using List.all_eq_true.1 harmless c mark

section Reading

variable (state : Splitting) (words : List Text) (rest : Text)

/-- Outside quotes a plain character goes into the open word. -/
theorem splitFrom?_push {c : Char} (plain : isPlain c = true) :
    splitFrom? .none state (c :: rest) = splitFrom? .none (state.push c) rest := by
  obtain ⟨single, double, backslash, blank⟩ := not_special_of_isPlain plain
  rw [splitFrom?.eq_def]
  simp only [single, double, backslash, blank, if_false, Bool.false_eq_true]

theorem splitFrom?_opened :
    splitFrom? .none state ('\'' :: rest) = splitFrom? .single state.opened rest := by
  rw [splitFrom?.eq_def]
  rfl

/-- A quote behind a backslash is kept. -/
theorem splitFrom?_backslash :
    splitFrom? .none state ('\\' :: '\'' :: rest) =
      splitFrom? .none (state.push '\'') rest := by
  rw [splitFrom?.eq_def]
  rfl

theorem splitFrom?_blank :
    splitFrom? .none state (' ' :: rest) = splitFrom? .none state.close rest := by
  rw [splitFrom?.eq_def]
  rfl

theorem splitFrom?_plain {word : Text} (plain : word.all isPlain = true) (read : Text) :
    splitFrom? .none ⟨words, some read⟩ (word ++ rest) =
      splitFrom? .none ⟨words, some (word.reverse ++ read)⟩ rest := by
  induction word generalizing read with
  | nil => rfl
  | cons c word inductionHypothesis =>
      simp only [List.all_cons, Bool.and_eq_true] at plain
      rw [List.cons_append, splitFrom?_push _ _ plain.1]
      simp only [Splitting.push, Option.getD_some, inductionHypothesis plain.2,
        List.reverse_cons, List.append_assoc, List.singleton_append]

/-- Single quotes keep every character, and a quote among them stands between two quoted parts. -/
theorem splitFrom?_escaped (word read : Text) :
    splitFrom? .single ⟨words, some read⟩ (word.flatMap escapeQuote ++ '\'' :: rest) =
      splitFrom? .none ⟨words, some (word.reverse ++ read)⟩ rest := by
  induction word generalizing read with
  | nil => simp [splitFrom?]
  | cons c word inductionHypothesis =>
      have next : splitFrom? .single ⟨words, some read⟩
          ((c :: word).flatMap escapeQuote ++ '\'' :: rest) =
          splitFrom? .single ⟨words, some (c :: read)⟩
            (word.flatMap escapeQuote ++ '\'' :: rest) := by
        by_cases mark : c = '\''
        · subst mark
          have closed (rest : Text) : splitFrom? .single ⟨words, some read⟩ ('\'' :: rest) =
              splitFrom? .none ⟨words, some read⟩ rest := by simp [splitFrom?]
          simp only [List.flatMap_cons, escapeQuote, if_true, List.cons_append, List.nil_append,
            closed, splitFrom?_backslash, splitFrom?_opened]
          rfl
        · simp [escapeQuote, mark, splitFrom?, Splitting.push]
      rw [next, inductionHypothesis]
      simp only [List.reverse_cons, List.append_assoc, List.singleton_append]

/-- A quoted word is read as that word, whatever stands behind it. -/
theorem splitFrom?_quote (word : Text) :
    splitFrom? .none ⟨words, none⟩ (word.quote ++ rest) =
      splitFrom? .none ⟨words, some word.reverse⟩ rest := by
  simp only [quote]
  split
  next plain =>
    obtain ⟨nonempty, plain⟩ := plain
    obtain ⟨c, word, rfl⟩ := List.exists_cons_of_ne_nil nonempty
    simp only [List.all_cons, Bool.and_eq_true] at plain
    rw [List.cons_append, splitFrom?_push _ _ plain.1]
    simp only [Splitting.push, Option.getD_none, splitFrom?_plain _ _ plain.2,
      List.reverse_cons]
  next special =>
    rw [List.cons_append, List.cons_append, List.append_assoc, splitFrom?_opened]
    have kept := splitFrom?_escaped words rest word []
    rw [List.append_nil] at kept
    exact kept

end Reading

/-- Quoted words with a blank between them are read back, behind the words before them. -/
theorem splitFrom?_join_quote (before words : List Text) :
    splitFrom? .none ⟨before, none⟩ (join [' '] (words.map quote)) =
      some (before.reverse ++ words) := by
  cases words with
  | nil => simp [join, splitFrom?, Splitting.close]
  | cons word words =>
      simp only [List.map_cons, join, splitFrom?_quote]
      induction words generalizing before word with
      | nil => simp [splitFrom?, Splitting.close]
      | cons next words inductionHypothesis =>
          rw [List.map_cons, List.flatMap_cons, List.append_assoc, List.singleton_append,
            splitFrom?_blank]
          simp only [Splitting.close, List.reverse_reverse, splitFrom?_quote]
          rw [inductionHypothesis, List.reverse_cons, List.append_assoc, List.singleton_append]

/-- A line of quoted words splits into these words, whatever characters they have. -/
theorem splitWords?_join_quote (words : List Text) :
    splitWords? (join [' '] (words.map quote)) = some words :=
  splitFrom?_join_quote [] words

example : join [' '] ([[], of "it's", of "a"].map quote) = of "'' 'it'\\''s' a" := by decide

end Promptline.Text
