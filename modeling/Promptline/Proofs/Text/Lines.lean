/-
This file cuts texts into lines. White space around a text or a line is no matter for what does not
look at the white space around a line.
-/

import Promptline.Proofs.Text.Pieces

namespace Promptline.Text

theorem trimEnd_append_gap (text : Text) {gap : Text} (blank : gap.IsGap) :
    (text ++ gap).trimEnd = text.trimEnd := by
  rw [trimEnd, List.reverse_append, List.dropWhile_append_of_pos blank.reverse, trimEnd]

theorem trim_gap_append {gap : Text} (blank : gap.IsGap) (text : Text) :
    (gap ++ text).trim = text.trim := by
  rw [trim, trimStart, List.dropWhile_append_of_pos blank, trim, trimStart]

theorem trim_append_gap (text : Text) {gap : Text} (blank : gap.IsGap) :
    (text ++ gap).trim = text.trim := by
  rw [trim, trimStart, List.dropWhile_append, trim, trimStart]
  cases kept : text.dropWhile isBlank with
  | nil =>
      have nothing : (gap ++ []).dropWhile isBlank = [] := dropWhile_gap blank (.inl rfl)
      rw [List.append_nil] at nothing
      rw [nothing, List.isEmpty_nil, if_pos rfl]
  | cons c rest =>
      rw [List.isEmpty_cons, if_neg Bool.false_ne_true, trimEnd_append_gap _ blank]

/-- Only white space is trimmed. -/
theorem exists_trim (text : Text) :
    ∃ before after : Text, before.IsGap ∧ after.IsGap ∧ text = before ++ text.trim ++ after := by
  refine ⟨text.takeWhile isBlank, (text.trimStart.reverse.takeWhile isBlank).reverse, ?_, ?_, ?_⟩
  · exact List.all_eq_true.1 List.all_takeWhile
  · exact IsGap.reverse (List.all_eq_true.1 List.all_takeWhile)
  · rw [trim, trimEnd, List.append_assoc, ← List.reverse_append, List.takeWhile_append_dropWhile,
      List.reverse_reverse, trimStart, List.takeWhile_append_dropWhile]

theorem trim_trim (text : Text) : text.trim.trim = text.trim := by
  obtain ⟨before, after, blank, blank', whole⟩ := text.exists_trim
  rw [← trim_gap_append blank text.trim, ← trim_append_gap (before ++ text.trim) blank', ← whole]

/-- A trimmed text starts with no white space. -/
theorem isBlank_of_trim_eq_cons {text rest : Text} {c : Char} (trimmed : text.trim = c :: rest) :
    isBlank c = false := by
  have starts : text.trim <+: text.trimStart := by
    rw [trim, trimEnd, ← List.reverse_suffix, List.reverse_reverse]
    exact List.dropWhile_suffix isBlank
  obtain ⟨more, whole⟩ := trimmed ▸ starts
  have stopped := List.head?_dropWhile_not isBlank text
  rw [← trimStart, ← whole] at stopped
  simpa using stopped

section Pieces

variable {α : Type} {read : Text → List α}

/-- White space around a line does not matter to the reader of lines, and a blank line has nothing
for it. -/
structure IgnoresGaps (read : Text → List α) : Prop where
  trim_eq : ∀ line : Text, read line.trim = read line
  nil_eq : read [] = []

namespace IgnoresGaps

theorem gap_append (ignores : IgnoresGaps read) {gap : Text} (blank : gap.IsGap) (line : Text) :
    read (gap ++ line) = read line := by
  rw [← ignores.trim_eq, trim_gap_append blank, ignores.trim_eq]

theorem append_gap (ignores : IgnoresGaps read) (line : Text) {gap : Text} (blank : gap.IsGap) :
    read (line ++ gap) = read line := by
  rw [← ignores.trim_eq, trim_append_gap line blank, ignores.trim_eq]

theorem gap_eq_nil (ignores : IgnoresGaps read) {gap : Text} (blank : gap.IsGap) :
    read gap = [] := by
  rw [← List.append_nil gap, ignores.gap_append blank, ignores.nil_eq]

theorem flatMap_gaps (ignores : IgnoresGaps read) {gaps : List Text}
    (blank : ∀ gap ∈ gaps, gap.IsGap) : gaps.flatMap read = [] :=
  List.flatMap_eq_nil_iff.2 fun gap member => ignores.gap_eq_nil (blank gap member)

theorem flatMap_pieces_gap_append (ignores : IgnoresGaps read) (separates : Char → Bool)
    {gap : Text} (blank : gap.IsGap) (text : Text) :
    (pieces separates (gap ++ text)).flatMap read = (pieces separates text).flatMap read := by
  obtain ⟨earlier, last, first, later, before, behind, both⟩ :=
    exists_pieces_append separates gap text
  have blanks : ∀ piece ∈ earlier ++ [last], piece.IsGap :=
    fun piece member c held => blank c (mem_of_mem_pieces (before ▸ member) held).1
  obtain ⟨nothing, meets⟩ := List.forall_mem_append.1 blanks
  rw [both, behind, List.flatMap_append, ignores.flatMap_gaps nothing, List.nil_append,
    List.flatMap_cons, List.flatMap_cons, ignores.gap_append (meets last List.mem_cons_self)]

theorem flatMap_pieces_append_gap (ignores : IgnoresGaps read) (separates : Char → Bool)
    (text : Text) {gap : Text} (blank : gap.IsGap) :
    (pieces separates (text ++ gap)).flatMap read = (pieces separates text).flatMap read := by
  obtain ⟨earlier, last, first, later, before, behind, both⟩ :=
    exists_pieces_append separates text gap
  have blanks : ∀ piece ∈ first :: later, piece.IsGap :=
    fun piece member c held => blank c (mem_of_mem_pieces (behind ▸ member) held).1
  obtain ⟨meets, nothing⟩ := List.forall_mem_cons.1 blanks
  rw [both, before, List.flatMap_append, List.flatMap_append, List.flatMap_cons,
    List.flatMap_singleton, ignores.append_gap last meets, ignores.flatMap_gaps nothing,
    List.append_nil]

theorem flatMap_pieces_trim (ignores : IgnoresGaps read) (separates : Char → Bool) (text : Text) :
    (pieces separates text.trim).flatMap read = (pieces separates text).flatMap read := by
  obtain ⟨before, after, blank, blank', whole⟩ := text.exists_trim
  rw [← ignores.flatMap_pieces_gap_append separates blank,
    ← ignores.flatMap_pieces_append_gap separates _ blank', ← whole]

/-- A carriage return in front of a line feed is white space behind the line, and an empty last line
is blank. -/
theorem flatMap_lines (ignores : IgnoresGaps read) (text : Text) :
    text.lines.flatMap read = (pieces (· = '\n') text).flatMap read := by
  obtain ⟨last, ends⟩ :=
    Option.ne_none_iff_exists'.1 (mt List.getLast?_eq_none_iff.1 (pieces_ne_nil (· = '\n') text))
  obtain ⟨front, whole⟩ := List.getLast?_eq_some_iff.1 ends
  have ended : (front.map fun line =>
      if line.getLast? = some '\r' then line.dropLast else line).flatMap read =
        front.flatMap read := by
    rw [List.flatMap_map]
    refine congrArg List.flatten (List.map_congr_left fun line _ => ?_)
    split
    next returns =>
      obtain ⟨start, rfl⟩ := List.getLast?_eq_some_iff.1 returns
      rw [List.dropLast_concat, ignores.append_gap start (show IsGap ['\r'] by decide)]
    · rfl
  rw [whole, List.flatMap_append, List.flatMap_singleton, ← ended]
  simp only [lines, whole, List.dropLast_concat, List.getLast?_concat]
  cases last with
  | nil => rw [ignores.nil_eq, List.append_nil]
  | cons c rest => rw [List.flatMap_append, List.flatMap_singleton]

end IgnoresGaps

end Pieces

end Promptline.Text
