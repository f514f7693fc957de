/-
This file says which places the word scanners find. Each of them answers the one place that has a
word on the one side and white space or an end of the text on the other, and the scanner to the
right mirrors the scanner to the left.
-/

import Promptline.Proofs.Text.Boundary

namespace Promptline.Text

/-- A word and the white space behind it reach from `start` to `stop`. There is such a word unless
only white space stands in front of `stop`. -/
structure WordBefore (text : Text) (start stop : Nat) : Prop where
  ordered : start ≤ stop
  spans : ∃ word gap : Text, text.slice start stop = word ++ gap ∧ word.IsWord ∧ gap.IsGap ∧
    (word = [] ↔ IsGap (text.take stop))
  wordless : IsGap (text.take stop) → start = 0
  apart : endsBlank (text.take start) = true

/-- A run without white space reaches from `start` over `place` to `stop`, and on no side is there a
longer one. -/
structure TokenAround (text : Text) (start place stop : Nat) : Prop where
  before : start ≤ place
  behind : place ≤ stop
  inside : stop ≤ text.length
  solid : IsWord (text.slice start stop)
  apart : endsBlank (text.take start) = true
  stops : startsBlank (text.drop stop) = true

/-- One word and the white space behind it reach from `start` to `stop`, and neither is empty. -/
structure PhraseBefore (text : Text) (start stop : Nat) : Prop where
  ordered : start ≤ stop
  spans : ∃ word gap : Text, text.slice start stop = word ++ gap ∧ word.IsWord ∧ word ≠ [] ∧
    gap.IsGap ∧ gap ≠ []
  apart : endsBlank (text.take start) = true

section Parts

variable {text : Text}

theorem IsWord.of_subset {word part : Text} (solid : word.IsWord) (within : part ⊆ word) :
    part.IsWord := fun c member => solid c (within member)

theorem IsGap.of_subset {gap part : Text} (blank : gap.IsGap) (within : part ⊆ gap) :
    part.IsGap := fun c member => blank c (within member)

theorem IsWord.append {first second : Text} (before : first.IsWord) (after : second.IsWord) :
    IsWord (first ++ second) := List.forall_mem_append.2 ⟨before, after⟩

/-- Only the empty text is a word and white space at once. -/
theorem IsWord.eq_nil_of_isGap {word : Text} (solid : word.IsWord) (blank : word.IsGap) :
    word = [] := by
  apply List.eq_nil_iff_forall_not_mem.2
  intro c member
  have both := (solid c member).symm.trans (blank c member)
  exact Bool.false_ne_true both

/-- A text ends with a word and white space behind it. The word is missing only if the text is white
space. -/
theorem exists_last_phrase (text : Text) :
    ∃ front word gap : Text, text = front ++ word ++ gap ∧ front.endsBlank = true ∧ word.IsWord ∧
      gap.IsGap ∧ (word = [] → front = []) := by
  obtain ⟨rest, gap, rfl, blank, stopped⟩ := exists_last_gap text
  obtain ⟨front, word, rfl, apart, solid⟩ := exists_last_word rest
  refine ⟨front, word, gap, rfl, apart, solid, blank, ?_⟩
  rintro rfl
  rw [List.append_nil, apart] at stopped
  simpa using stopped

/-- The scan to the left passes the white space and then the word. -/
theorem wordStartBefore_of_take {front word gap : Text} {offset : Nat}
    (cut : text.take offset = front ++ word ++ gap) (apart : front.endsBlank = true)
    (solid : word.IsWord) (blank : gap.IsGap) (begun : word = [] → front = []) :
    text.wordStartBefore offset = front.length := by
  have stopped : (front ++ word).reverse = [] ∨ startsBlank (front ++ word).reverse = false := by
    by_cases missing : word = []
    · simp [missing, begun missing]
    · rw [startsBlank_reverse]
      exact .inr (endsBlank_append_word front solid missing)
  rw [wordStartBefore, cut, List.reverse_append, dropWhile_gap blank.reverse stopped,
    List.reverse_append, dropWhile_word solid.reverse (by rwa [startsBlank_reverse]),
    List.length_reverse]

/-- A part of the text up to an offset, with what stands in front of it. -/
theorem take_eq_of_slice {start stop : Nat} {part : Text} (ordered : start ≤ stop)
    (spans : text.slice start stop = part) : text.take stop = text.take start ++ part := by
  rw [← spans, take_append_slice text ordered]

theorem slice_of_take {front part : Text} {stop : Nat} (cut : text.take stop = front ++ part) :
    text.slice front.length stop = part := by
  rw [slice, cut, List.drop_left]

theorem take_of_take {front part : Text} {stop : Nat} (cut : text.take stop = front ++ part) :
    text.take front.length = front := by
  have whole : front ++ (part ++ text.drop stop) = text := by
    rw [← List.append_assoc, ← cut, List.take_append_drop]
  rw [← whole, List.take_left]

theorem length_le_of_take {front part : Text} {stop : Nat} (cut : text.take stop = front ++ part) :
    front.length ≤ stop := by
  have counted := congrArg List.length cut
  rw [List.length_take, List.length_append] at counted
  omega

theorem slice_append_slice (text : Text) {start place stop : Nat} (before : start ≤ place)
    (behind : place ≤ stop) :
    text.slice start place ++ text.slice place stop = text.slice start stop := by
  apply (List.append_right_inj (text.take start)).1
  rw [← List.append_assoc, take_append_slice text before, take_append_slice text behind,
    take_append_slice text (Nat.le_trans before behind)]

theorem slice_append_drop (text : Text) {start stop : Nat} (ordered : start ≤ stop) :
    text.slice start stop ++ text.drop stop = text.drop start := by
  apply (List.append_right_inj (text.take start)).1
  rw [← List.append_assoc, take_append_slice_append_drop text ordered, List.take_append_drop]

/-- The token ends behind the word at its offset. -/
theorem tokenEnd_of_drop {word back : Text} {offset : Nat} (cut : text.drop offset = word ++ back)
    (solid : word.IsWord) (stops : back.startsBlank = true) :
    text.tokenEnd offset = text.length - back.length := by
  rw [tokenEnd, cut, dropWhile_word solid stops]

/-- What the token reaches over behind its offset is free of white space. -/
theorem isWord_slice_tokenEnd {offset : Nat} (inside : offset ≤ text.length) :
    IsWord (text.slice offset (text.tokenEnd offset)) := by
  let solid := fun c : Char => !isBlank c
  have cut := @List.takeWhile_append_dropWhile _ solid (text.drop offset)
  have parts := slice_append_drop text (le_tokenEnd inside)
  have left : text.drop (text.tokenEnd offset) = (text.drop offset).dropWhile solid := by
    have suffix : (text.drop offset).dropWhile solid <:+ text :=
      (List.dropWhile_suffix _).trans (List.drop_suffix _ _)
    rw [tokenEnd, ← List.suffix_iff_eq_drop.1 suffix]
  rw [left] at parts
  rw [List.append_cancel_right (parts.trans cut.symm)]
  intro c member
  simpa [solid] using List.all_eq_true.1 List.all_takeWhile c member

end Parts

section Scanners

variable (text : Text) (offset : Nat)

/-- An offset behind the text counts as its end. -/
theorem take_min_length : text.take (min offset text.length) = text.take offset :=
  List.take_eq_take_min.symm

theorem drop_min_length : text.drop (min offset text.length) = text.drop offset := by
  by_cases inside : offset ≤ text.length
  · rw [Nat.min_eq_left inside]
  · rw [Nat.min_eq_right (by omega), List.drop_length, List.drop_eq_nil_of_le (by omega)]

/-- The word before an offset starts at the one place with a word behind it and none that goes on in
front of it. -/
theorem wordStartBefore_eq_iff (start : Nat) :
    text.wordStartBefore offset = start ↔ text.WordBefore start (min offset text.length) := by
  have clamped := take_min_length text offset
  constructor
  · rintro rfl
    obtain ⟨front, word, gap, cut, apart, solid, blank, begun⟩ :=
      exists_last_phrase (text.take offset)
    rw [wordStartBefore_of_take cut apart solid blank begun]
    rw [← clamped, List.append_assoc] at cut
    have missing : IsGap (text.take (min offset text.length)) → word = [] := fun all =>
      solid.eq_nil_of_isGap (all.of_subset (by simp [cut]))
    refine ⟨length_le_of_take cut, ⟨word, gap, slice_of_take cut, solid, blank, ?_, missing⟩,
      ?_, ?_⟩
    · rintro rfl
      rw [cut, begun rfl]
      exact blank
    · intro all
      rw [begun (missing all), List.length_nil]
    · rw [take_of_take cut]
      exact apart
  · rintro ⟨ordered, ⟨word, gap, spans, solid, blank, missing⟩, wordless, apart⟩
    have cut := take_eq_of_slice ordered spans
    have begun : word = [] → text.take start = [] := fun none => by
      rw [wordless (missing.1 none), List.take_zero]
    rw [clamped, ← List.append_assoc] at cut
    rw [wordStartBefore_of_take cut apart solid blank begun, List.length_take]
    omega

/-- The scan to the right is the scan to the left in the mirror. -/
theorem wordEndAfter_reverse :
    wordEndAfter text.reverse (text.length - offset) =
      text.length - text.wordStartBefore offset := by
  have clamped : text.length - (text.length - offset) = min offset text.length := by omega
  rw [wordEndAfter, wordStartBefore, List.length_reverse, List.drop_reverse, clamped,
    take_min_length]

/-- The token is the one run around the offset that is not longer on any side. -/
theorem tokenStart_tokenEnd_eq_iff (start stop : Nat) :
    (text.tokenStart offset = start ∧ text.tokenEnd offset = stop) ↔
      text.TokenAround start (min offset text.length) stop := by
  have left := take_min_length text offset
  have right := drop_min_length text offset
  constructor
  · rintro ⟨rfl, rfl⟩
    obtain ⟨front, word, cut, apart, solid⟩ := exists_last_word (text.take offset)
    have begins := tokenStart_of_take cut apart solid
    have ends : text.tokenEnd (min offset text.length) = text.tokenEnd offset := by
      rw [tokenEnd, tokenEnd, right]
    rw [← left] at cut
    have before := length_le_of_take cut
    have behind := ends ▸ le_tokenEnd (Nat.min_le_right offset text.length)
    refine ⟨begins ▸ before, behind, text.tokenEnd_le_length offset, ?_,
      text.endsBlank_take_tokenStart offset, text.startsBlank_drop_tokenEnd offset⟩
    rw [begins, ← slice_append_slice text before behind, slice_of_take cut, ← ends]
    exact solid.append (isWord_slice_tokenEnd (Nat.min_le_right _ _))
  · rintro ⟨before, behind, inside, solid, apart, stops⟩
    rw [← slice_append_slice text before behind] at solid
    have front := (take_append_slice text before).symm
    have back := (slice_append_drop text behind).symm
    rw [left] at front
    rw [right] at back
    rw [tokenStart_of_take front apart (solid.of_subset (List.subset_append_left _ _)),
      tokenEnd_of_drop back (solid.of_subset (List.subset_append_right _ _)) stops,
      List.length_take, List.length_drop]
    omega

/-- The phrase before an offset is the one word there with the white space behind it. -/
theorem precedingWordStart?_eq_some_iff_phraseBefore (start : Nat) :
    text.precedingWordStart? offset = some start ↔
      text.PhraseBefore start (min offset text.length) := by
  rw [precedingWordStart?_eq_some_iff, ← take_min_length]
  constructor
  · rintro ⟨front, word, gap, cut, apart, solid, filled, blank, wide, rfl⟩
    rw [List.append_assoc] at cut
    refine ⟨length_le_of_take cut, ⟨word, gap, slice_of_take cut, solid, filled, blank, wide⟩, ?_⟩
    rw [take_of_take cut]
    exact apart
  · rintro ⟨ordered, ⟨word, gap, spans, solid, filled, blank, wide⟩, apart⟩
    refine ⟨text.take start, word, gap, ?_, apart, solid, filled, blank, wide, ?_⟩
    · rw [take_eq_of_slice ordered spans, List.append_assoc]
    · rw [List.length_take]
      omega

/-- There is a phrase before an offset if white space ends there with a word in front of it. -/
theorem isSome_precedingWordStart?_iff :
    (text.precedingWordStart? offset).isSome = true ↔
      endsBlank (text.take offset) = true ∧ ¬ IsGap (text.take offset) := by
  simp only [Option.isSome_iff_exists, precedingWordStart?_eq_some_iff]
  constructor
  · rintro ⟨_, front, word, gap, cut, _, solid, filled, blank, wide, _⟩
    rw [cut]
    refine ⟨endsBlank_append_gap _ blank wide, fun all => filled ?_⟩
    exact solid.eq_nil_of_isGap (all.of_subset (by simp))
  · rintro ⟨apart, worded⟩
    obtain ⟨front, word, gap, cut, begun, solid, blank, missing⟩ :=
      exists_last_phrase (text.take offset)
    rw [cut] at apart worded
    have filled : word ≠ [] := by
      rintro rfl
      rw [missing rfl] at worded
      exact worded blank
    have wide : gap ≠ [] := by
      rintro rfl
      rw [List.append_nil, endsBlank_append_word front solid filled] at apart
      exact Bool.false_ne_true apart
    exact ⟨_, front, word, gap, cut, begun, solid, filled, blank, wide, rfl⟩

/-- All scanners find exactly the words. -/
theorem scanners_find_words :
    let place := min offset text.length
    (∀ start, text.wordStartBefore offset = start ↔ text.WordBefore start place) ∧
      wordEndAfter text.reverse (text.length - place) =
        text.length - text.wordStartBefore offset ∧
      (∀ start stop, (text.tokenStart offset = start ∧ text.tokenEnd offset = stop) ↔
        text.TokenAround start place stop) ∧
      (∀ start, text.precedingWordStart? offset = some start ↔ text.PhraseBefore start place) ∧
      ((text.precedingWordStart? offset).isSome = true ↔
        endsBlank (text.take place) = true ∧ ¬ IsGap (text.take place)) := by
  intro place
  have clamped : text.length - place = text.length - offset := by omega
  refine ⟨text.wordStartBefore_eq_iff offset, ?_, text.tokenStart_tokenEnd_eq_iff offset,
    text.precedingWordStart?_eq_some_iff_phraseBefore offset, ?_⟩
  · rw [clamped, wordEndAfter_reverse]
  · rw [take_min_length, isSome_precedingWordStart?_iff]

/-- The ideographic space is white space too. -/
example : wordStartBefore (of "漢字\u3000かな") 5 = 3 := by decide +kernel

end Scanners

end Promptline.Text
