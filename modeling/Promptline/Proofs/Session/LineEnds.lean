/-
This file converts the line ends of what a session prints on a terminal. A line feed ends a line
with or without a carriage return before it. Of the texts that only differ in such carriage returns,
the terminal gets the one in which no line feed lacks them.
-/

import Promptline.Session.Terminal

namespace Promptline

namespace Text

/-- Every occurrence of the pattern gives way to the replacement. Occurrences are found from left to
right and do not overlap. An empty pattern occurs before every character and at the end. -/
def replaceAll (text pattern replacement : Text) : Text :=
  match text with
  | [] => if pattern = [] then replacement else []
  | c :: rest =>
      if pattern = [] then replacement ++ c :: replaceAll rest pattern replacement
      else if startsWith (c :: rest) pattern then
        replacement ++ replaceAll (rest.drop (pattern.length - 1)) pattern replacement
      else c :: replaceAll rest pattern replacement
termination_by text.length

section Replacing

variable {pattern : Text} (filled : pattern ≠ []) (replacement : Text)

include filled

theorem replaceAll_nil : replaceAll [] pattern replacement = [] := by
  rw [replaceAll, if_neg filled]

/-- An occurrence at the start is replaced, and the search goes on behind it. -/
theorem replaceAll_append (rest : Text) :
    (pattern ++ rest).replaceAll pattern replacement =
      replacement ++ rest.replaceAll pattern replacement := by
  cases pattern with
  | nil => exact absurd rfl filled
  | cons c others =>
      have starts : startsWith (c :: (others ++ rest)) (c :: others) = true :=
        startsWith_iff.2 (List.prefix_append (c :: others) rest)
      rw [List.cons_append, replaceAll, if_neg filled, if_pos starts, List.length_cons,
        Nat.add_sub_cancel, List.drop_left]

/-- A character at which the pattern does not occur stays. -/
theorem replaceAll_cons {c : Char} {rest : Text} (other : ¬ pattern <+: c :: rest) :
    replaceAll (c :: rest) pattern replacement = c :: rest.replaceAll pattern replacement := by
  rw [replaceAll, if_neg filled, if_neg (mt startsWith_iff.1 other)]

end Replacing

/-- To join the line ends is to replace the pairs. -/
theorem joinLineEnds_eq_replaceAll (text : Text) :
    joinLineEnds text = text.replaceAll ['\r', '\n'] ['\n'] := by
  have filled : ['\r', '\n'] ≠ [] := List.cons_ne_nil _ _
  induction text using joinLineEnds.induct with
  | case1 rest inductionHypothesis =>
      have pair := replaceAll_append filled ['\n'] rest
      rw [joinLineEnds, inductionHypothesis]
      exact pair.symm
  | case2 c rest single inductionHypothesis =>
      have other : ¬ ['\r', '\n'] <+: c :: rest := by
        rintro ⟨behind, starts⟩
        obtain ⟨rfl, rfl⟩ := List.cons.inj starts
        exact single behind rfl rfl
      rw [joinLineEnds.eq_2 _ _ single, inductionHypothesis, replaceAll_cons filled _ other]
  | case3 => exact (replaceAll_nil filled ['\n']).symm

/-- A line feed brings its carriage return along. -/
def returned (c : Char) : Text := if c = '\n' then ['\r', '\n'] else [c]

theorem flatMap_returned_eq_replaceAll (text : Text) :
    text.flatMap returned = text.replaceAll ['\n'] ['\r', '\n'] := by
  have filled : ['\n'] ≠ [] := List.cons_ne_nil _ _
  induction text with
  | nil => exact (replaceAll_nil filled _).symm
  | cons c rest inductionHypothesis =>
      rw [List.flatMap_cons, returned, inductionHypothesis]
      split
      next feed =>
        rw [feed]
        exact (replaceAll_append filled _ rest).symm
      next further =>
        have other : ¬ ['\n'] <+: c :: rest := by
          rintro ⟨behind, starts⟩
          exact further (List.cons.inj starts).1.symm
        rw [replaceAll_cons filled _ other, List.singleton_append]

/-- Every line feed stands right behind a carriage return. -/
def ReturnsCarriage (text : Text) : Prop :=
  ∀ before after : Text, text = before ++ '\n' :: after → before.getLast? = some '\r'

theorem returnsCarriage_nil : ReturnsCarriage [] := by
  intro before after cut
  exact absurd cut.symm (List.append_ne_nil_of_right_ne_nil _ (List.cons_ne_nil _ _))

theorem ReturnsCarriage.ne_cons {text : Text} (returns : text.ReturnsCarriage) (rest : Text) :
    text ≠ '\n' :: rest := by
  intro starts
  exact absurd (returns [] rest starts) (by decide)

/-- A pair of both makes no difference to what follows. -/
theorem returnsCarriage_pair {rest : Text} :
    ReturnsCarriage ('\r' :: '\n' :: rest) ↔ rest.ReturnsCarriage := by
  constructor
  · intro returns before after cut
    have last := returns ('\r' :: '\n' :: before) after (by rw [cut]; rfl)
    cases before with
    | nil => exact absurd (Option.some.inj last) (by decide)
    | cons c before => rwa [List.getLast?_cons_cons, List.getLast?_cons_cons] at last
  · intro returns before after cut
    match before with
    | [] => exact absurd (List.cons.inj cut).1 (by decide)
    | [c] => rw [← (List.cons.inj cut).1]; rfl
    | c :: d :: before =>
        have last := returns before after (List.cons.inj (List.cons.inj cut).2).2
        rw [List.getLast?_cons, List.getLast?_cons, last]
        rfl

/-- Where no pair starts there is no line feed, and the character makes no other difference. -/
theorem returnsCarriage_cons {c : Char} {rest : Text}
    (single : ∀ after, c = '\r' → rest = '\n' :: after → False) :
    ReturnsCarriage (c :: rest) ↔ c ≠ '\n' ∧ rest.ReturnsCarriage := by
  constructor
  · intro returns
    refine ⟨?_, ?_⟩
    · rintro rfl
      exact returns.ne_cons rest rfl
    · intro before after cut
      have last := returns (c :: before) after (by rw [cut]; rfl)
      cases before with
      | nil => exact (single after (Option.some.inj last) cut).elim
      | cons d before => rwa [List.getLast?_cons_cons] at last
  · rintro ⟨further, returns⟩ before after cut
    cases before with
    | nil => exact absurd (List.cons.inj cut).1 further
    | cons d before =>
        rw [List.getLast?_cons, returns before after (List.cons.inj cut).2]
        rfl

theorem returnsCarriage_flatMap_returned (text : Text) :
    ReturnsCarriage (text.flatMap returned) := by
  induction text with
  | nil => exact returnsCarriage_nil
  | cons c rest inductionHypothesis =>
      rw [List.flatMap_cons, returned]
      split
      next => exact returnsCarriage_pair.2 inductionHypothesis
      next further =>
        have single (after : Text) (_ : c = '\r') := inductionHypothesis.ne_cons after
        exact (returnsCarriage_cons single).2 ⟨further, inductionHypothesis⟩

/-- The carriage returns that came along are the ones that are dropped, even if the text had some
before. -/
theorem joinLineEnds_flatMap_returned (text : Text) :
    joinLineEnds (text.flatMap returned) = text := by
  induction text with
  | nil => rfl
  | cons c rest inductionHypothesis =>
      rw [List.flatMap_cons, returned]
      split
      next feed =>
        rw [feed]
        exact congrArg _ inductionHypothesis
      next further =>
        -- What follows starts with no line feed, so a carriage return here is in no pair.
        have single (after : Text) (_ : c = '\r') :=
          (returnsCarriage_flatMap_returned rest).ne_cons after
        rw [List.singleton_append, joinLineEnds.eq_2 _ _ single, inductionHypothesis]

/-- A text that has all its carriage returns gets them back. -/
theorem flatMap_returned_joinLineEnds {text : Text} (returns : text.ReturnsCarriage) :
    (joinLineEnds text).flatMap returned = text := by
  induction text using joinLineEnds.induct with
  | case1 rest inductionHypothesis =>
      rw [joinLineEnds, List.flatMap_cons, inductionHypothesis (returnsCarriage_pair.1 returns)]
      rfl
  | case2 c rest single inductionHypothesis =>
      obtain ⟨further, returns⟩ := (returnsCarriage_cons single).1 returns
      rw [joinLineEnds.eq_2 _ _ single, List.flatMap_cons, inductionHypothesis returns, returned,
        if_neg further, List.singleton_append]
  | case3 => rfl

end Text

namespace TerminalSession

open Text

theorem rawLines_eq_flatMap (text : Text) :
    rawLines text = (joinLineEnds text).flatMap returned := rfl

/-- First the pairs become line feeds and then the line feeds become pairs. -/
theorem rawLines_eq_replaceAll (text : Text) :
    rawLines text =
      (text.replaceAll ['\r', '\n'] ['\n']).replaceAll ['\n'] ['\r', '\n'] := by
  rw [rawLines_eq_flatMap, flatMap_returned_eq_replaceAll, joinLineEnds_eq_replaceAll]

/-- Only one text has a carriage return before every line feed and is the same as the given text
once the pairs are joined. -/
theorem eq_rawLines_iff {text other : Text} :
    other = rawLines text ↔
      other.ReturnsCarriage ∧ joinLineEnds other = joinLineEnds text := by
  rw [rawLines_eq_flatMap]
  constructor
  · rintro rfl
    exact ⟨returnsCarriage_flatMap_returned _, joinLineEnds_flatMap_returned _⟩
  · rintro ⟨returns, same⟩
    rw [← same, flatMap_returned_joinLineEnds returns]

/-- A carriage return before a pair is not part of the line end, and it stays. -/
example : rawLines ['\r', '\r', '\n', '\n'] = ['\r', '\r', '\n', '\r', '\n'] := by decide

/-- The line ends of what is printed are converted once. Every line feed then stands right behind a
carriage return, a second conversion changes nothing, and without the pairs the text is what it was
without them. -/
theorem line_ends_convert_once (text : Text) :
    (rawLines text).ReturnsCarriage ∧ rawLines (rawLines text) = rawLines text ∧
      (rawLines text).replaceAll ['\r', '\n'] ['\n'] = text.replaceAll ['\r', '\n'] ['\n'] := by
  obtain ⟨returns, same⟩ := eq_rawLines_iff.1 (rfl : rawLines text = rawLines text)
  have again : rawLines text = rawLines (rawLines text) := eq_rawLines_iff.2 ⟨returns, rfl⟩
  refine ⟨returns, again.symm, ?_⟩
  rw [← joinLineEnds_eq_replaceAll, ← joinLineEnds_eq_replaceAll, same]

end TerminalSession

end Promptline
