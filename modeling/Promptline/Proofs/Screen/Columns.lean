/-
This file states what the completion box does with its candidates. It loses none and overlaps none,
and in several columns the labels of a row stand at their columns with blanks between them.
-/

import Promptline.Proofs.Screen.Highlight

namespace Promptline

namespace Compose

/-- Every label starts at its column, and a blank or more lead to the next one. -/
def Aligned (itemWidth : Nat) (cells : List BoxCell) (text : Text) : Prop :=
  ∀ before cell behind, cells = before ++ cell :: behind →
    ∃ front rest : Text, text = front ++ cell.label ++ rest ∧
      front.width = cell.column * itemWidth ∧
      ∀ next others, behind = next :: others →
        ∃ gap more, 0 < gap ∧ rest = blanks gap ++ next.label ++ more ∧
          Text.width (front ++ cell.label ++ blanks gap) = next.column * itemWidth

/-- The editor shows a box of the candidates in this room. -/
structure Offers (editor : Editor) (candidates : List Candidate) (width height minimum : Nat) :
    Prop where
  boxed : editor.completion.isBoxed = true
  candidates : editor.completion.candidates = candidates
  columns : editor.size.columns = width
  rows : candidateRows editor = height
  itemWidth : editor.options.itemWidth = minimum

theorem Offers.candidateBox_eq {editor : Editor} {candidates : List Candidate}
    {width height minimum : Nat} (offers : Offers editor candidates width height minimum) :
    candidateBox editor = CompletionBox.arrange candidates editor.completion.selected? width height
      minimum := by
  rw [← offers.candidates, ← offers.columns, ← offers.rows, ← offers.itemWidth]
  rfl

theorem Offers.getElem?_completionRows {editor : Editor} {candidates : List Candidate}
    {width height minimum : Nat} (offers : Offers editor candidates width height minimum)
    {row : Nat} (inside : row < (candidateBox editor).rows) :
    row < height ∧ (completionRows editor)[(helpRows editor).length + row]? =
      some (boxRow (candidateBox editor) width row) := by
  constructor
  · rw [offers.candidateBox_eq] at inside
    exact Nat.lt_of_lt_of_le inside (CompletionBox.rows_arrange_le ..)
  · rw [completionRows_of_boxed offers.boxed, List.getElem?_append_right (Nat.le_add_right _ _),
      Nat.add_sub_cancel_left, List.getElem?_map, List.getElem?_range inside, offers.columns]
    rfl

theorem fst_foldl_joinCell (box : CompletionBox) (cells : List BoxCell)
    (row : Text × Option (Nat × Nat)) :
    (cells.foldl (joinCell box) row).1 = cells.foldl (addCell box) row.1 := by
  induction cells generalizing row with
  | nil => rfl
  | cons cell rest inductionHypothesis => exact inductionHypothesis _

/-- A cell in a further column is written behind a blank or more. -/
theorem exists_gap {allowed : Char → Prop} (plain : Text.PlainOver allowed) (blank : allowed ' ')
    {box : CompletionBox} (several : 1 < box.columns) {next : BoxCell} (others : List BoxCell)
    {line : Text} (written : ∀ c ∈ line, allowed c)
    (bare : next.description? = none ∧ next.label.width < box.itemWidth)
    (reach : line.width < next.column * box.itemWidth) :
    ∃ gap more, 0 < gap ∧
      (next :: others).foldl (addCell box) line = line ++ (blanks gap ++ next.label ++ more) ∧
      Text.width (line ++ blanks gap) = next.column * box.itemWidth := by
  obtain ⟨more, continued, _⟩ := exists_foldl_addCell box others (addCell box line next)
  refine ⟨next.column * box.itemWidth - line.width, more, Nat.sub_pos_of_lt reach, ?_,
    (width_append_blanks plain blank written (Nat.le_of_lt reach)).2⟩
  rw [List.foldl_cons, continued, addCell_of_several several bare.1 bare.2]
  simp only [List.append_assoc]

section Arranged

variable {candidates : List Candidate} {selected? : Option Nat} {width height minimum row : Nat}
  (filled : candidates ≠ []) (room : 0 < width) (high : 0 < height) (word : width ≤ 65535)
  (small : height ≤ 65535) (below : row < height) {allowed : Char → Prop}
  (plain : Text.PlainOver allowed) (blank : allowed ' ')
  (labels : ∀ candidate ∈ candidates, ∀ c ∈ candidate.label, allowed c)

include filled room high word small below plain blank labels

/-- In several columns a row is not cut. -/
theorem text_boxRow :
    let box := CompletionBox.arrange candidates selected? width height minimum
    1 < box.columns → (boxRow box width row).text =
      (box.cells.filter fun cell => cell.row = row).foldl (addCell box) [] := by
  intro box several
  let cells := box.cells.filter fun cell => cell.row = row
  have held : ∀ cell ∈ cells, cell ∈ box.cells := fun cell member => (List.mem_filter.1 member).1
  have placed : box.WellPlaced candidates width height :=
    CompletionBox.wellPlaced_arrange filled room high selected? small word
  have columns : cells.map BoxCell.column = List.range _ :=
    (CompletionBox.columnMajor_arrange filled room high selected? small word).columns_row below
  have counted := congrArg List.length columns
  rw [List.length_map, List.length_range] at counted
  rw [← counted] at columns
  have few : cells.length ≤ box.columns := by
    apply Nat.le_of_not_lt
    intro more
    have among := List.mem_range.2 more
    rw [← columns] at among
    obtain ⟨cell, member, outside⟩ := List.mem_map.1 among
    exact Nat.ne_of_lt (placed.inside cell (held cell member)).1 outside
  have bare := CompletionBox.several_arrange filled room high selected? word several
  have short := (width_consecutive_le plain blank several
    (fun cell member => bare cell (held cell member))
    (fun cell member => allowed_label labels (held cell member)) columns).2
  have fits : Text.width (cells.foldl (addCell box) []) ≤ width :=
    calc
      Text.width (cells.foldl (addCell box) []) ≤ cells.length * box.itemWidth := short
      _ ≤ box.columns * box.itemWidth := Nat.mul_le_mul_right _ few
      _ ≤ width := placed.fits
  rw [boxRow_eq]
  simp only [fst_foldl_joinCell]
  exact Text.truncate_of_width_le fits

/-- In several columns the labels of a row are aligned. -/
theorem aligned_boxRow :
    let box := CompletionBox.arrange candidates selected? width height minimum
    1 < box.columns → Aligned box.itemWidth (box.cells.filter fun cell => cell.row = row)
      (boxRow box width row).text := by
  intro box several before cell behind split
  have held : ∀ other ∈ before ++ cell :: behind, other ∈ box.cells := by
    rw [← split]
    exact fun other member => (List.mem_filter.1 member).1
  have here := held cell (List.mem_append_right _ List.mem_cons_self)
  have bare : ∀ cell ∈ box.cells, cell.description? = none ∧ cell.label.width < box.itemWidth :=
    CompletionBox.several_arrange filled room high selected? word several
  have placed : CompletionBox.ColumnMajor height box.cells :=
    CompletionBox.columnMajor_arrange filled room high selected? small word
  let line := before.foldl (addCell box) []
  let front := line ++ blanks (cell.column * box.itemWidth - Text.width line)
  obtain ⟨written, free⟩ : (∀ c ∈ line, allowed c) ∧ line.width ≤ cell.column * box.itemWidth :=
    width_line_le filled room high word small below plain blank labels split
  obtain ⟨padded, start⟩ : (∀ c ∈ front, allowed c) ∧ front.width = cell.column * box.itemWidth :=
    width_append_blanks plain blank written free
  have text : (boxRow box width row).text = behind.foldl (addCell box) (front ++ cell.label) := by
    rw [text_boxRow filled room high word small below plain blank labels several, split,
      List.foldl_append, List.foldl_cons, addCell_of_several several (bare cell here).1
        (bare cell here).2]
  obtain ⟨rest, added, _⟩ := exists_foldl_addCell box behind (front ++ cell.label)
  refine ⟨front, rest, text.trans added, start, fun next others following => ?_⟩
  have label := allowed_label labels here
  have reach : Text.width (front ++ cell.label) < next.column * box.itemWidth := by
    have column := (placed.column_of_split below split).2
    rw [following, List.append_cons] at split
    have nextColumn := (placed.column_of_split below split).2
    rw [List.length_append, List.length_singleton, ← column] at nextColumn
    have narrow := (bare cell here).2
    rw [plain.width_append padded label, start, nextColumn, Nat.succ_mul]
    omega
  obtain ⟨gap, more, blanked, continued, arrives⟩ := exists_gap plain blank several others
    (List.forall_mem_append.2 ⟨padded, label⟩) (bare next (held next (by simp [following]))) reach
  rw [following, continued] at added
  exact ⟨gap, more, blanked, (List.append_cancel_left added).symm, arrives⟩

end Arranged

/-- The character is a blank or stands in a label. -/
def LabelCharacter (candidates : List Candidate) (c : Char) : Prop :=
  c = ' ' ∨ ∃ candidate ∈ candidates, c ∈ candidate.label

/-- A box keeps to its bounds, and its cells stand apart and show their candidates. The selected
candidate is on its page once and marked alone. The pages cut the list into parts one behind the
other. In several columns the labels are aligned, with a blank or more between them, if blanks and
label characters are clusters of their own in any order. -/
theorem box_loses_and_overlaps_none {candidates : List Candidate} {width height : Nat}
    (filled : candidates ≠ []) (room : 0 < width) (word : width ≤ 65535) (high : 0 < height)
    (small : height ≤ 65535) (minimum : Nat) :
    let boxOf := fun selected? => CompletionBox.arrange candidates selected? width height minimum
    (∀ selected?, (boxOf selected?).WellPlaced candidates width height) ∧
    (∀ selected < candidates.length, (boxOf (some selected)).Marks selected) ∧
    (∃ pages : List (List Nat), pages.flatten = List.range candidates.length ∧ [] ∉ pages ∧
      (∀ selected?, (boxOf selected?).pageCount = pages.length ∧
        pages[(boxOf selected?).page]? = some ((boxOf selected?).cells.map BoxCell.index)) ∧
      ∀ page < pages.length, ∃ selected < candidates.length, (boxOf (some selected)).page = page) ∧
    (Text.PlainOver (LabelCharacter candidates) →
      ∀ editor, Offers editor candidates width height minimum →
        let box := candidateBox editor
        1 < box.columns → ∀ row < box.rows, ∃ drawn,
          (completionRows editor)[(helpRows editor).length + row]? = some drawn ∧
            Aligned box.itemWidth (box.cells.filter fun cell => cell.row = row) drawn.text) := by
  intro boxOf
  refine ⟨fun selected? => CompletionBox.wellPlaced_arrange filled room high selected? small word,
    fun selected known => CompletionBox.marks_arrange filled room high small known,
    CompletionBox.pages_arrange filled room high minimum,
    fun plain editor offers => ?_⟩
  intro box several row inside
  obtain ⟨below, drawn⟩ := offers.getElem?_completionRows inside
  have aligned := @aligned_boxRow candidates editor.completion.selected? width height minimum row
    filled room high word small below _ plain (Or.inl rfl)
    (fun candidate member c held => Or.inr ⟨candidate, member, held⟩)
  rw [← offers.candidateBox_eq] at aligned
  exact ⟨_, drawn, aligned several⟩

/-- Five candidates in two rows and eight columns, the second of them wide. -/
def fiveCandidates : List Candidate :=
  ["a", "日", "c", "d", "e"].map fun label => .ofValue (Text.of label)

/-- An editor in which the second of the candidates is selected. -/
def twoColumns : Editor :=
  let options := { EditorOptions.standard with completionHeight := 2, itemWidth := 3 }
  let source := Source.ofCandidates fun _ _ => fiveCandidates
  let tab := Event.key (.plain .tab)
  (Editor.started options [] ⟨8, 6⟩ none).run [(source, tab), (source, tab)]

theorem plainOver_fiveCandidates : Text.PlainOver (LabelCharacter fiveCandidates) := by
  have solid : ∀ candidate ∈ fiveCandidates, candidate.label.Solid := by decide +kernel
  intro text labelled
  apply Text.Solid.plain
  intro c member
  rcases labelled c member with rfl | ⟨candidate, offered, held⟩
  · exact solid_blank
  · exact solid candidate offered c held

/-- The last candidate is on a page of its own. On the first page the fourth one stands behind a
wide one and keeps to its column. -/
theorem box_of_fiveCandidates :
    fiveCandidates ≠ [] ∧ Text.PlainOver (LabelCharacter fiveCandidates) ∧
      Offers twoColumns fiveCandidates 8 2 3 ∧ 1 < (candidateBox twoColumns).columns ∧
      (CompletionBox.arrange fiveCandidates (some 4) 8 2 3).Marks 4 ∧
      Aligned 3 ((candidateBox twoColumns).cells.filter fun cell => cell.row = 1)
        (Text.of "日 d") := by
  have filled : fiveCandidates ≠ [] := by decide
  have offers : Offers twoColumns fiveCandidates 8 2 3 := ⟨rfl, rfl, rfl, rfl, rfl⟩
  have several : 1 < (candidateBox twoColumns).columns := by decide +kernel
  have wide : (candidateBox twoColumns).itemWidth = 3 := by decide +kernel
  have row : (completionRows twoColumns)[(helpRows twoColumns).length + 1]?.map BoxRow.text =
      some (Text.of "日 d") := by decide +kernel
  obtain ⟨_, marks, _, rows⟩ := @box_loses_and_overlaps_none fiveCandidates 8 2 filled (by decide)
    (by decide) (by decide) (by decide) 3
  obtain ⟨drawn, found, aligned⟩ := rows plainOver_fiveCandidates twoColumns offers several 1
    (by decide +kernel)
  rw [found, Option.map_some, Option.some.injEq] at row
  rw [row, wide] at aligned
  exact ⟨filled, plainOver_fiveCandidates, offers, several, marks 4 (by decide), aligned⟩

end Compose

end Promptline
