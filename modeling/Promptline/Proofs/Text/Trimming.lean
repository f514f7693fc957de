/-
This file says what a command line loses without the white space at its end. The words stay the same
unless a backslash keeps the first blank of this white space, which then belongs to the last word.
-/

import Mathlib.Data.List.Basic
import Mathlib.Data.List.ModifyLast
import Promptline.Proofs.Text.Lines
import Promptline.Proofs.Text.Quoting

namespace Promptline.Text

/-- The number of backslashes at the end is odd, so that the last one is not escaped itself. -/
def escapesNext (text : Text) : Bool := (text.reverse.takeWhile (· = '\\')).length % 2 = 1

/-- Only what stands behind another character counts. -/
theorem escapesNext_append_cons (front : Text) {c : Char} (other : c ≠ '\\') (text : Text) :
    escapesNext (front ++ c :: text) = escapesNext text := by
  have stops : (c :: front.reverse).takeWhile (· = '\\') = [] := by simp [other]
  rw [escapesNext, List.reverse_append, List.reverse_cons, List.append_assoc,
    List.singleton_append, List.takeWhile_append, stops, List.append_nil, escapesNext]
  split
  next all => rw [(List.takeWhile_prefix _).eq_of_length all]
  · rfl

theorem escapesNext_cons {c : Char} (other : c ≠ '\\') (text : Text) :
    escapesNext (c :: text) = escapesNext text := escapesNext_append_cons [] other text

/-- A backslash and the character behind it make no difference to what follows. -/
theorem escapesNext_pair (d : Char) (text : Text) :
    escapesNext ('\\' :: d :: text) = escapesNext text := by
  by_cases backslash : d = '\\'
  · have pair : ['\\', '\\'].takeWhile (· = '\\') = ['\\', '\\'] := rfl
    rw [backslash, escapesNext, List.reverse_cons, List.reverse_cons, List.append_assoc,
      List.singleton_append, List.takeWhile_append, pair, escapesNext]
    split
    next all =>
      rw [(List.takeWhile_prefix _).eq_of_length all, List.length_append]
      exact congrArg (fun n => decide (n = 1)) (Nat.add_mod_right _ 2)
    · rfl
  · exact escapesNext_append_cons ['\\'] backslash text

/-- More text for the last word. -/
def growLast (more : Text) (words : List Text) : List Text := words.modifyLast (· ++ more)

theorem growLast_concat (more : Text) (words : List Text) (last : Text) :
    growLast more (words ++ [last]) = words ++ [last ++ more] := List.modifyLast_concat _ _ _

theorem growLast_nil (words : List Text) : growLast [] words = words := by
  rcases List.eq_nil_or_concat' words with rfl | ⟨front, last, rfl⟩
  · rfl
  · rw [growLast_concat, List.append_nil]

theorem drop_growLast (more : Text) (words : List Text) (count : Nat) :
    (growLast more words).drop count = growLast more (words.drop count) := by
  rcases List.eq_nil_or_concat' words with rfl | ⟨front, last, rfl⟩
  · rw [List.drop_nil]
    exact List.drop_nil
  · rw [growLast_concat]
    by_cases within : count ≤ front.length
    · rw [List.drop_append_of_le_length within, List.drop_append_of_le_length within,
        growLast_concat]
    · rw [List.drop_eq_nil_of_le (by simp; omega), List.drop_eq_nil_of_le (by simp; omega)]
      rfl

section Reading

theorem ne_of_isBlank {c : Char} (blank : isBlank c = true) : c ≠ '\'' ∧ c ≠ '"' ∧ c ≠ '\\' := by
  refine ⟨?_, ?_, ?_⟩ <;> (rintro rfl; exact absurd blank (by decide))

variable {gap : Text}

/-- White space outside quotes ends the last word. -/
theorem splitFrom?_gap (blank : gap.IsGap) (state : Splitting) :
    splitFrom? .none state gap = some state.close.words.reverse := by
  induction gap generalizing state with
  | nil => simp [splitFrom?]
  | cons c gap inductionHypothesis =>
      obtain ⟨isBlank, blank⟩ := List.forall_mem_cons.1 blank
      obtain ⟨single, double, backslash⟩ := ne_of_isBlank isBlank
      have again : state.close.close = state.close := by
        cases state with
        | mk words open? => cases open? <;> rfl
      rw [splitFrom?.eq_def]
      simp only [single, double, backslash, isBlank, if_false, if_true]
      rw [inductionHypothesis blank, again]

/-- A backslash at the end opens a word. -/
theorem splitFrom?_backslash_end (state : Splitting) :
    splitFrom? .none state ['\\'] =
      some (state.words.reverse ++ [(state.open?.getD []).reverse]) := by
  simp [splitFrom?, Splitting.opened, Splitting.close]

/-- A blank behind a backslash is kept. -/
theorem splitFrom?_backslash_gap {c : Char} (blank : gap.IsGap) (state : Splitting) :
    splitFrom? .none state ('\\' :: c :: gap) =
      some (state.words.reverse ++ [(state.open?.getD []).reverse ++ [c]]) := by
  simp [splitFrom?, splitFrom?_gap blank, Splitting.push, Splitting.close]

/-- Without a quote the single quotes stay open. -/
theorem splitFrom?_single_eq_none {text : Text} (unclosed : '\'' ∉ text) (state : Splitting) :
    splitFrom? .single state text = none := by
  induction text generalizing state with
  | nil => simp [splitFrom?]
  | cons c text inductionHypothesis =>
      obtain ⟨other, unclosed⟩ := List.ne_and_not_mem_of_not_mem_cons unclosed
      rw [splitFrom?.eq_def]
      simp only [Ne.symm other, if_false, inductionHypothesis unclosed]

theorem splitFrom?_double_gap (blank : gap.IsGap) (state : Splitting) :
    splitFrom? .double state gap = none := by
  induction gap generalizing state with
  | nil => simp [splitFrom?]
  | cons c gap inductionHypothesis =>
      obtain ⟨isBlank, blank⟩ := List.forall_mem_cons.1 blank
      obtain ⟨-, double, backslash⟩ := ne_of_isBlank isBlank
      rw [splitFrom?.eq_def]
      simp only [double, backslash, if_false, inductionHypothesis blank]

/-- White space behind a text only matters if a backslash keeps its first blank, and then the last
word has this blank in addition. -/
theorem splitFrom?_append_gap (blank : gap.IsGap) (mark : QuoteMark) (state : Splitting)
    (text : Text) :
    splitFrom? mark state (text ++ gap) =
      if escapesNext text then (splitFrom? mark state text).map (growLast (gap.take 1))
      else splitFrom? mark state text := by
  fun_induction splitFrom? mark state text with
  | case1 state => exact splitFrom?_gap blank state
  | case2 mark state quoted =>
      cases mark with
      | none => exact absurd rfl quoted
      | single =>
          exact splitFrom?_single_eq_none (fun held => (ne_of_isBlank (blank _ held)).1 rfl) state
      | double => exact splitFrom?_double_gap blank state
  | case3 state rest ih =>
      rw [escapesNext_cons (by decide), ← ih, List.cons_append, splitFrom?.eq_def]
      rfl
  | case4 state c rest other ih =>
      have step (rest : Text) : splitFrom? .single state (c :: rest) =
          splitFrom? .single (state.push c) rest := by
        rw [splitFrom?.eq_def]
        simp only [other, if_false]
      by_cases closed : '\'' ∈ rest
      · obtain ⟨inside, behind, rfl⟩ := List.append_of_mem closed
        rw [escapesNext_append_cons inside (by decide)] at ih
        rw [List.cons_append, step, ih, ← List.cons_append,
          escapesNext_append_cons (c :: inside) (by decide)]
      · have unclosed : '\'' ∉ rest ++ gap := fun held =>
          (List.mem_append.1 held).elim closed fun held => (ne_of_isBlank (blank _ held)).1 rfl
        rw [List.cons_append, step, splitFrom?_single_eq_none unclosed,
          splitFrom?_single_eq_none closed]
        simp
  | case5 state rest ih =>
      rw [escapesNext_cons (by decide), ← ih, List.cons_append, splitFrom?.eq_def]
      rfl
  | case6 state =>
      have open_ (gap : Text) (blank : gap.IsGap) :
          splitFrom? .double state ('\\' :: gap) = none := by
        cases gap with
        | nil => simp [splitFrom?]
        | cons d gap =>
            have blank := (List.forall_mem_cons.1 blank).2
            simp [splitFrom?, splitFrom?_double_gap blank]
      rw [List.singleton_append, open_ gap blank, Option.map_none, ite_self]
  | case7 state d rest escaped _ ih =>
      rw [escapesNext_pair, ← ih]
      simp [splitFrom?, escaped]
  | case8 state d rest kept _ ih =>
      rw [escapesNext_pair, ← ih]
      simp [splitFrom?, kept]
  | case9 state c rest other other' ih =>
      rw [escapesNext_cons other', ← ih, List.cons_append, splitFrom?.eq_def]
      simp only [other, other', if_false]
  | case10 state rest ih =>
      rw [escapesNext_cons (by decide), ← ih, List.cons_append, splitFrom?_opened]
  | case11 state rest _ ih =>
      rw [escapesNext_cons (by decide), ← ih, List.cons_append, splitFrom?.eq_def]
      rfl
  | case12 state =>
      have ends := splitFrom?_backslash_end state
      have step : splitFrom? .none state ['\\'] = splitFrom? .none state.opened [] := by
        rw [splitFrom?.eq_def]
        rfl
      rw [step] at ends
      rw [if_pos (by rfl : escapesNext ['\\'] = true), List.singleton_append, ends, Option.map_some,
        growLast_concat]
      cases gap with
      | nil => rw [splitFrom?_backslash_end, List.take_nil, List.append_nil]
      | cons c gap => exact splitFrom?_backslash_gap (List.forall_mem_cons.1 blank).2 state
  | case13 state d rest _ _ ih =>
      rw [escapesNext_pair, ← ih]
      simp [splitFrom?]
  | case14 state c rest single double backslash isBlank ih =>
      rw [escapesNext_cons backslash, ← ih, List.cons_append, splitFrom?.eq_def]
      simp only [single, double, backslash, isBlank, if_false, if_true]
  | case15 state c rest single double backslash filled ih =>
      rw [escapesNext_cons backslash, ← ih, List.cons_append, splitFrom?.eq_def]
      simp only [single, double, backslash, filled, if_false, Bool.false_eq_true]

end Reading

section Words

theorem words_gap_append {gap : Text} (blank : gap.IsGap) (text : Text) :
    (gap ++ text).words = text.words := by
  induction gap with
  | nil => rfl
  | cons c gap inductionHypothesis =>
      obtain ⟨isBlank, blank⟩ := List.forall_mem_cons.1 blank
      rw [List.cons_append, words, pieces_cons_of_separates isBlank, ← inductionHypothesis blank]
      rfl

theorem words_append_gap (text : Text) {gap : Text} (blank : gap.IsGap) :
    (text ++ gap).words = text.words := by
  induction gap generalizing text with
  | nil => rw [List.append_nil]
  | cons c gap inductionHypothesis =>
      obtain ⟨isBlank, blank⟩ := List.forall_mem_cons.1 blank
      obtain ⟨earlier, last, first, later, before, behind, both⟩ :=
        exists_pieces_append Promptline.isBlank text [c]
      rw [pieces_cons_of_separates isBlank] at behind
      obtain ⟨rfl, rfl⟩ := List.cons.inj behind
      rw [List.append_cons, inductionHypothesis _ blank, words, both, words, before]
      cases last <;> simp [pieces]

/-- Only white space at the end is missing from a trimmed line. -/
theorem exists_trimStart_eq (line : Text) :
    ∃ gap : Text, gap.IsGap ∧ line.trimStart = line.trim ++ gap := by
  refine ⟨(line.trimStart.reverse.takeWhile isBlank).reverse, ?_, ?_⟩
  · exact IsGap.reverse (List.all_eq_true.1 List.all_takeWhile)
  · rw [trim, trimEnd, ← List.reverse_append, List.takeWhile_append_dropWhile, List.reverse_reverse]

theorem words_trimStart (line : Text) : line.trimStart.words = line.words := by
  have whole : line.takeWhile isBlank ++ line.trimStart = line := List.takeWhile_append_dropWhile
  rw [← words_gap_append (List.all_eq_true.1 List.all_takeWhile) line.trimStart, whole]

theorem words_trim (line : Text) : line.trim.words = line.words := by
  obtain ⟨gap, blank, whole⟩ := line.exists_trimStart_eq
  rw [← words_append_gap line.trim blank, ← whole, words_trimStart]

end Words

theorem trimStart_trim (line : Text) : line.trim.trimStart = line.trim := by
  cases trimmed : line.trim with
  | nil => rfl
  | cons c rest =>
      have filled := isBlank_of_trim_eq_cons trimmed
      rw [trimStart, List.dropWhile_cons_of_neg (by simp [filled])]

/-- The blank behind the trimmed line, if a backslash keeps it. -/
def keptBlank? (line : Text) : Option Char :=
  if escapesNext line.trim then (line.trimStart.drop line.trim.length).head? else none

/-- With the white space at its end a line has the same words, but the last one has the kept blank,
too. -/
theorem splitWords?_trimStart (line : Text) :
    line.trimStart.splitWords? = line.trim.splitWords?.map (growLast line.keptBlank?.toList) := by
  obtain ⟨gap, blank, whole⟩ := line.exists_trimStart_eq
  have unchanged : growLast [] = id := funext growLast_nil
  rw [splitWords?, whole, splitFrom?_append_gap blank, keptBlank?, whole, List.drop_left,
    splitWords?]
  split
  · cases gap <;> rfl
  · rw [Option.toList_none, unchanged, Option.map_id_apply]

end Promptline.Text
