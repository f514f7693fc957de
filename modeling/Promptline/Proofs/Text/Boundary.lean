/-
This file finds the words of a text whose parts are known. A text ends with a word, with blanks in
front of a word, or with two words and the blanks between them.
-/

import Promptline.Text.Word

namespace Promptline.Text

/-- The text has no white space. -/
def IsWord (text : Text) : Prop := ∀ c ∈ text, isBlank c = false

/-- The text is white space. -/
def IsGap (text : Text) : Prop := ∀ c ∈ text, isBlank c = true

instance (text : Text) : Decidable text.IsWord :=
  decidable_of_iff (text.all (fun c => !isBlank c) = true) (by simp [IsWord])

instance (text : Text) : Decidable text.IsGap :=
  decidable_of_iff (text.all isBlank = true) (by simp [IsGap])

/-- The text is empty or starts with white space. -/
def startsBlank (text : Text) : Bool := text.head?.all isBlank

theorem IsWord.reverse {word : Text} (solid : word.IsWord) : IsWord word.reverse :=
  fun c member => solid c (List.mem_reverse.1 member)

theorem IsGap.reverse {gap : Text} (blank : gap.IsGap) : IsGap gap.reverse :=
  fun c member => blank c (List.mem_reverse.1 member)

theorem startsBlank_reverse (text : Text) : startsBlank text.reverse = text.endsBlank := by
  rw [startsBlank, endsBlank, List.head?_reverse]

theorem endsBlank_reverse (text : Text) : endsBlank text.reverse = text.startsBlank := by
  rw [startsBlank, endsBlank, List.getLast?_reverse]

theorem dropWhile_of_startsBlank {text : Text} (apart : text.startsBlank = true) :
    text.dropWhile (fun c => !isBlank c) = text := by
  cases text with
  | nil => rfl
  | cons c rest =>
      have blank : isBlank c = true := by simpa [startsBlank] using apart
      simp [blank]

/-- A word ends in front of white space. -/
theorem dropWhile_word {word rest : Text} (solid : word.IsWord) (apart : rest.startsBlank = true) :
    (word ++ rest).dropWhile (fun c => !isBlank c) = rest := by
  rw [List.dropWhile_append_of_pos (by simpa [IsWord] using solid), dropWhile_of_startsBlank apart]

/-- White space ends where other text starts. -/
theorem dropWhile_gap {gap rest : Text} (blank : gap.IsGap)
    (stopped : rest = [] ∨ rest.startsBlank = false) : (gap ++ rest).dropWhile isBlank = rest := by
  rw [List.dropWhile_append_of_pos blank]
  cases rest with
  | nil => rfl
  | cons c rest =>
      have other : isBlank c = false := by simpa [startsBlank] using stopped
      simp [other]

/-- What is left behind a word starts with white space. -/
theorem startsBlank_dropWhile (text : Text) :
    startsBlank (text.dropWhile fun c => !isBlank c) = true := by
  have stopped := List.head?_dropWhile_not (fun c => !isBlank c) text
  cases rest : text.dropWhile fun c => !isBlank c with
  | nil => rfl
  | cons c others =>
      rw [rest] at stopped
      simpa [startsBlank] using stopped

/-- A word does not end with white space. -/
theorem endsBlank_append_word (front : Text) {word : Text} (solid : word.IsWord)
    (filled : word ≠ []) : (front ++ word).endsBlank = false := by
  have last := solid _ (List.getLast_mem filled)
  rw [endsBlank, List.getLast?_append, List.getLast?_eq_some_getLast filled]
  simpa using last

theorem endsBlank_append {front back : Text} (apart : front.endsBlank = true)
    (behind : back.endsBlank = true) : (front ++ back).endsBlank = true := by
  rw [endsBlank, List.getLast?_append]
  cases last : back.getLast? with
  | none => exact apart
  | some c =>
      rw [endsBlank, last] at behind
      exact behind

/-- A text ends with the white space behind it. -/
theorem endsBlank_append_gap (front : Text) {gap : Text} (blank : gap.IsGap) (wide : gap ≠ []) :
    (front ++ gap).endsBlank = true := by
  have last := blank _ (List.getLast_mem wide)
  rw [endsBlank, List.getLast?_append, List.getLast?_eq_some_getLast wide]
  simpa using last

/-- A text ends with a word, which may be empty, and white space stands in front of it. -/
theorem exists_last_word (text : Text) :
    ∃ front word : Text, text = front ++ word ∧ front.endsBlank = true ∧ word.IsWord := by
  let solid := fun c : Char => !isBlank c
  refine ⟨(text.reverse.dropWhile solid).reverse, (text.reverse.takeWhile solid).reverse,
    ?_, ?_, ?_⟩
  · rw [← List.reverse_append, List.takeWhile_append_dropWhile, List.reverse_reverse]
  · rw [endsBlank_reverse]
    exact startsBlank_dropWhile text.reverse
  · refine IsWord.reverse fun c member => ?_
    simpa [solid] using List.all_eq_true.1 List.all_takeWhile c member

/-- A text ends with white space, which may be empty, and a word stands in front of it. -/
theorem exists_last_gap (text : Text) :
    ∃ front gap : Text, text = front ++ gap ∧ gap.IsGap ∧
      (front = [] ∨ front.endsBlank = false) := by
  refine ⟨(text.reverse.dropWhile isBlank).reverse, (text.reverse.takeWhile isBlank).reverse, ?_,
    ?_, ?_⟩
  · rw [← List.reverse_append, List.takeWhile_append_dropWhile, List.reverse_reverse]
  · exact IsGap.reverse (List.all_eq_true.1 List.all_takeWhile)
  · rw [endsBlank_reverse]
    have stopped := List.head?_dropWhile_not isBlank text.reverse
    cases rest : text.reverse.dropWhile isBlank with
    | nil => exact .inl rfl
    | cons c others =>
        rw [rest] at stopped
        right
        simpa [startsBlank] using stopped

/-- These are the ways in which a text ends. The last word can be empty. -/
inductive Ending : Text → Prop where
  | word {last : Text} (solid : last.IsWord) : Ending last
  | blanks {gap last : Text} (blank : gap.IsGap) (wide : gap ≠ []) (solid : last.IsWord) :
      Ending (gap ++ last)
  | phrase {front first gap last : Text} (apart : front.endsBlank = true) (begun : first.IsWord)
      (filled : first ≠ []) (blank : gap.IsGap) (wide : gap ≠ []) (solid : last.IsWord) :
      Ending (front ++ first ++ gap ++ last)

theorem ending (text : Text) : Ending text := by
  obtain ⟨rest, last, rfl, apart, solid⟩ := exists_last_word text
  obtain ⟨front, gap, rfl, blank, stopped⟩ := exists_last_gap rest
  rcases stopped with rfl | stopped
  · by_cases wide : gap = []
    · subst wide
      exact .word solid
    · exact .blanks blank wide solid
  · obtain ⟨front, first, rfl, apart', begun⟩ := exists_last_word front
    have wide : gap ≠ [] := by
      rintro rfl
      rw [List.append_nil, stopped] at apart
      exact Bool.false_ne_true apart
    have filled : first ≠ [] := by
      rintro rfl
      rw [List.append_nil, apart'] at stopped
      exact Bool.false_ne_true stopped.symm
    exact .phrase apart' begun filled blank wide solid

/-- The token at an offset is the word in front of it. -/
theorem tokenStart_of_take {text front word : Text} {offset : Nat}
    (cut : text.take offset = front ++ word) (apart : front.endsBlank = true)
    (solid : word.IsWord) : text.tokenStart offset = front.length := by
  rw [← startsBlank_reverse] at apart
  rw [tokenStart, cut, List.reverse_append, dropWhile_word solid.reverse apart,
    List.length_reverse]

/-- A word behind white space is the token at its end. -/
theorem tokenStart_word {front word : Text} (apart : front.endsBlank = true) (solid : word.IsWord)
    (tail : Text) : (front ++ word ++ tail).tokenStart (front ++ word).length = front.length :=
  tokenStart_of_take List.take_left apart solid

/-- White space at an offset ends the token there. -/
theorem tokenEnd_of_startsBlank (front : Text) {tail : Text} (apart : tail.startsBlank = true) :
    (front ++ tail).tokenEnd front.length = front.length := by
  rw [tokenEnd, List.drop_left, dropWhile_of_startsBlank apart, List.length_append,
    Nat.add_sub_cancel]

/-- The token at an offset starts behind white space. -/
theorem endsBlank_take_tokenStart (text : Text) (offset : Nat) :
    endsBlank (text.take (text.tokenStart offset)) = true := by
  obtain ⟨front, word, cut, apart, solid⟩ := exists_last_word (text.take offset)
  have whole : front ++ word ++ text.drop offset = text := by
    rw [← cut, List.take_append_drop]
  rw [tokenStart_of_take cut apart solid, ← whole, List.append_assoc, List.take_left]
  exact apart

/-- The token at an offset ends in front of white space. -/
theorem startsBlank_drop_tokenEnd (text : Text) (offset : Nat) :
    startsBlank (text.drop (text.tokenEnd offset)) = true := by
  have left : (text.drop offset).dropWhile (fun c => !isBlank c) <:+ text :=
    (List.dropWhile_suffix _).trans (List.drop_suffix _ _)
  rw [tokenEnd, ← List.suffix_iff_eq_drop.1 left]
  exact startsBlank_dropWhile _

/-- The word before an offset is looked for behind the white space that ends there. -/
theorem precedingWordStart?_of_gap {text rest gap : Text} {start : Nat}
    (cut : text.take start = rest ++ gap) (blank : gap.IsGap)
    (stopped : rest = [] ∨ rest.endsBlank = false) :
    text.precedingWordStart? start =
      if gap = [] ∨ rest = [] then none
      else some (rest.reverse.dropWhile fun c => !isBlank c).length := by
  have stopped' : rest.reverse = [] ∨ startsBlank rest.reverse = false := by
    rwa [List.reverse_eq_nil_iff, startsBlank_reverse]
  rw [precedingWordStart?, cut, List.reverse_append, dropWhile_gap blank.reverse stopped']
  simp

/-- The word before an offset stands between white space, or it is the first of the text. -/
theorem precedingWordStart?_eq_some_iff {text : Text} {start wider : Nat} :
    text.precedingWordStart? start = some wider ↔
      ∃ front word gap : Text, text.take start = front ++ word ++ gap ∧ front.endsBlank = true ∧
        word.IsWord ∧ word ≠ [] ∧ gap.IsGap ∧ gap ≠ [] ∧ front.length = wider := by
  constructor
  · intro found
    obtain ⟨rest, gap, cut, blank, stopped⟩ := exists_last_gap (text.take start)
    rw [precedingWordStart?_of_gap cut blank stopped] at found
    split at found
    · simp at found
    next known =>
      obtain ⟨wide, filled⟩ := not_or.1 known
      obtain ⟨front, word, rfl, apart, solid⟩ := exists_last_word rest
      have some_word : word ≠ [] := by
        rintro rfl
        rw [List.append_nil] at stopped filled
        rw [stopped.resolve_left filled] at apart
        exact Bool.false_ne_true apart
      have start := Option.some.inj found
      rw [List.reverse_append, dropWhile_word solid.reverse (by rwa [startsBlank_reverse]),
        List.length_reverse] at start
      exact ⟨front, word, gap, cut, apart, solid, some_word, blank, wide, start⟩
  · rintro ⟨front, word, gap, cut, apart, solid, filled, blank, wide, rfl⟩
    have stopped : (front ++ word).endsBlank = false := endsBlank_append_word front solid filled
    have some_text : front ++ word ≠ [] := List.append_ne_nil_of_right_ne_nil front filled
    rw [precedingWordStart?_of_gap cut blank (.inr stopped), if_neg (not_or.2 ⟨wide, some_text⟩),
      List.reverse_append, dropWhile_word solid.reverse (by rwa [startsBlank_reverse]),
      List.length_reverse]

/-- The phrase from the word before an offset starts with that word. -/
theorem slice_of_precedingWordStart? {text : Text} {start wider stop : Nat}
    (found : text.precedingWordStart? start = some wider) (behind : start ≤ stop) :
    ∃ c rest, text.slice wider stop = c :: rest ∧ isBlank c = false := by
  obtain ⟨front, word, gap, cut, _, solid, filled, _, _, rfl⟩ :=
    precedingWordStart?_eq_some_iff.1 found
  obtain ⟨more, longer⟩ : text.take start <+: text.take stop := List.take_prefix_take_left behind
  cases word with
  | nil => exact absurd rfl filled
  | cons c word =>
      refine ⟨c, word ++ gap ++ more, ?_, solid c List.mem_cons_self⟩
      rw [slice, ← longer, cut, List.append_assoc, List.append_assoc, List.drop_left]
      simp

theorem endsBlank_take_of_precedingWordStart? {text : Text} {start wider : Nat}
    (found : text.precedingWordStart? start = some wider) : endsBlank (text.take wider) = true := by
  obtain ⟨front, word, gap, cut, apart, _, _, _, _, rfl⟩ := precedingWordStart?_eq_some_iff.1 found
  have whole : front ++ (word ++ gap ++ text.drop start) = text := by
    rw [← List.append_assoc, ← List.append_assoc, ← cut, List.take_append_drop]
  rw [← whole, List.take_left]
  exact apart

end Promptline.Text
