/-
This file finds the cursor in the drawn input line. It stands right behind the clusters before it,
unless the left edge cuts a wide cluster in two.
-/

import Mathlib.Data.List.Infix
import Promptline.Proofs.Editor.Reachable
import Promptline.Proofs.Screen.Frame

namespace Promptline

namespace Drawing

/-- The columns that the clusters count for in a text. -/
def width (drawing : Drawing) : Nat := (drawing.map fun drawn => drawn.1.clusterWidth).sum

/-- Clusters that take up room are drawn as wide as they are. -/
theorem total_eq_width {drawing : Drawing}
    (plain : ∀ drawn ∈ drawing, drawn.1.drawnWidth = drawn.1.clusterWidth) :
    drawing.total = drawing.width := congrArg List.sum (List.map_congr_left plain)

/-- A cluster ends at the column. -/
def CutAt (drawing : Drawing) (column : Nat) : Prop :=
  ∃ front behind, drawing = front ++ behind ∧ front.total = column

theorem cutAt_zero (drawing : Drawing) : drawing.CutAt 0 := ⟨[], drawing, rfl, rfl⟩

/-- Behind the first cluster the columns are counted from its end on. -/
theorem cutAt_cons {drawn : Text × Flags} {rest : Drawing} {column : Nat} (positive : 0 < column) :
    CutAt (drawn :: rest) column ↔
      drawn.1.drawnWidth ≤ column ∧ rest.CutAt (column - drawn.1.drawnWidth) := by
  constructor
  · rintro ⟨front, behind, cut, reached⟩
    cases front with
    | nil =>
        rw [total_nil] at reached
        omega
    | cons first front =>
        obtain ⟨rfl, rest_eq⟩ := List.cons.inj cut
        rw [total_cons] at reached
        exact ⟨by omega, front, behind, rest_eq, by omega⟩
  · rintro ⟨inside, front, behind, rfl, reached⟩
    refine ⟨drawn :: front, behind, rfl, ?_⟩
    rw [total_cons, reached]
    omega

end Drawing

namespace Compose

/-- What is left out ends inside the front if the front is wide enough. -/
theorem scroll_append {columns : Nat} {front : Drawing} (enough : columns ≤ front.total)
    (behind : Drawing) : scroll columns (front ++ behind) = scroll columns front ++ behind := by
  induction front generalizing columns with
  | nil =>
      obtain rfl : columns = 0 := Nat.le_zero.1 enough
      cases behind <;> rfl
  | cons drawn rest inductionHypothesis =>
      simp only [Drawing.total_cons] at enough
      simp only [List.cons_append, scroll]
      split
      · rfl
      · exact inductionHypothesis (by omega)

/-- As many columns are left out as asked for, and one more where a wide cluster stands in the
way. -/
theorem total_scroll {columns : Nat} {drawing : Drawing} (enough : columns ≤ drawing.total) :
    drawing.CutAt columns ∧ (scroll columns drawing).total + columns = drawing.total ∨
      ¬ drawing.CutAt columns ∧
        (scroll columns drawing).total + (columns + 1) = drawing.total := by
  induction drawing generalizing columns with
  | nil =>
      obtain rfl : columns = 0 := Nat.le_zero.1 enough
      exact .inl ⟨Drawing.cutAt_zero [], rfl⟩
  | cons drawn rest inductionHypothesis =>
      have narrow := drawn.1.drawnWidth_le
      have wide := drawn.1.drawnWidth_pos
      rw [Drawing.total_cons] at enough
      by_cases none : columns = 0
      · subst none
        exact .inl ⟨Drawing.cutAt_zero _, by rw [scroll_zero, Nat.add_zero]⟩
      have positive : 0 < columns := Nat.pos_of_ne_zero none
      have further : scroll columns (drawn :: rest) =
          scroll (columns - drawn.1.drawnWidth) rest := by
        simp only [scroll, if_neg none]
      rw [Drawing.cutAt_cons positive, further, Drawing.total_cons]
      by_cases inside : drawn.1.drawnWidth ≤ columns
      · rcases @inductionHypothesis (columns - drawn.1.drawnWidth) (by omega) with
          ⟨cut, left⟩ | ⟨uncut, left⟩
        · exact .inl ⟨⟨inside, cut⟩, by omega⟩
        · exact .inr ⟨fun both => uncut both.2, by omega⟩
      · -- a wide cluster is left out for the sake of one column
        refine .inr ⟨fun both => inside both.1, ?_⟩
        rw [Nat.sub_eq_zero_of_le (by omega), scroll_zero]
        omega

end Compose

namespace Editor

/-- The clusters of the prompt and of the displayed text before the cursor. -/
def beforeCursor (editor : Editor) : Drawing :=
  (editor.options.prompt.clusters ++
    Text.clusters (editor.buffer.shown.take editor.buffer.cursor)).map fun cluster =>
      (cluster, .none)

section Plain

variable {editor : Editor}

/-- Without a suffix the cursor is counted from the clusters before it. -/
theorem width_beforeCursor (unsuffixed : editor.suffix? = none) :
    editor.beforeCursor.width = editor.lineView.column := by
  have column : editor.lineView.column = editor.options.prompt.width +
      Text.width (editor.buffer.shown.take editor.buffer.cursor) := by
    simp only [LineView.column, lineView, unsuffixed, Nat.add_zero]
  rw [column, Text.width_eq_sum, Text.width_eq_sum, Drawing.width, beforeCursor, List.map_map,
    ← List.sum_append, ← List.map_append]
  rfl

/-- The clusters before the cursor are a front of all that is drawn. -/
theorem exists_clusters_segments (unsuffixed : editor.suffix? = none)
    (separate : editor.buffer.shown.Separate) :
    ∃ behind, Segment.clusters (Compose.segments editor.lineView) =
      editor.beforeCursor ++ behind := by
  have cut := List.take_append_drop editor.buffer.cursor editor.buffer.shown.clusters
  rw [← separate.clusters_take] at cut
  have drawn : Segment.clusters (Compose.segments editor.lineView) =
      editor.options.prompt.clusters.map (fun cluster => (cluster, Flags.none)) ++
        (editor.buffer.shown.clusters.map (fun cluster => (cluster, Flags.none)) ++
          (editor.ghost?.getD []).clusters.map fun cluster => (cluster, Flags.dimmed)) := by
    simp [Segment.clusters, Compose.segments, lineView, unsuffixed]
  rw [drawn, ← cut, beforeCursor]
  simp only [List.map_append, List.append_assoc]
  exact ⟨_, rfl⟩

variable (prompt : editor.options.prompt.Plain) (text : editor.buffer.shown.Plain)

include prompt text

theorem drawnWidth_of_mem_beforeCursor {drawn : Text × Flags}
    (member : drawn ∈ editor.beforeCursor) : drawn.1.drawnWidth = drawn.1.clusterWidth := by
  obtain ⟨cluster, found, rfl⟩ := List.mem_map.1 member
  rcases List.mem_append.1 found with early | late
  · exact prompt.drawnWidth_eq early
  · exact (text.take _).drawnWidth_eq late

/-- The first row starts with a tail of the clusters before the cursor, and with all of them if they
leave room for the cursor. The cursor is reported right behind the tail if and only if a cluster
ends where the line is cut, and otherwise it is reported one column too far to the right. Nothing is
reported if a row lacks room for its drawing, and only then. -/
theorem cursor_compose (editing : editor.mode = .edit) (unsuffixed : editor.suffix? = none)
    (room : 0 < editor.size.columns) (word : editor.size.columns ≤ 65535) :
    let before := editor.beforeCursor
    let skipped := before.width + 1 - editor.size.columns
    let tail := Compose.scroll skipped before
    tail <:+ before ∧ (before.width < editor.size.columns → tail = before) ∧
      (editor.compose.isSome ↔ editor.Drawable) ∧
      ∀ composed ∈ editor.compose,
        (∃ behind, composed.frame.row 0 = tail.cells ++ behind) ∧
        (composed.cursor = tail.width ↔ before.CutAt skipped) ∧
        (¬ before.CutAt skipped → composed.cursor = tail.width + 1) := by
  intro before skipped tail
  have suffix : tail <:+ before := Compose.scroll_suffix skipped before
  have plain := fun drawn => @drawnWidth_of_mem_beforeCursor editor prompt text drawn
  have total : before.total = before.width := Drawing.total_eq_width plain
  have drawn : tail.total = tail.width :=
    Drawing.total_eq_width fun drawn member => plain drawn (suffix.subset member)
  have column : before.width = editor.lineView.column := width_beforeCursor unsuffixed
  have enough : skipped ≤ before.total := by omega
  have scrolled : before.CutAt skipped ∧ tail.total + skipped = before.total ∨
      ¬ before.CutAt skipped ∧ tail.total + (skipped + 1) = before.total :=
    Compose.total_scroll enough
  have inactive := mode_eq_edit_iff.1 editing
  have composition := compose_of_editing inactive word
  refine ⟨suffix, fun fits => ?_, ?_, fun composed found => ?_⟩
  · have nothing : skipped = 0 := by omega
    simp only [tail, nothing, Compose.scroll_zero]
  · rw [composition, Option.isSome_ite]
  · rw [composition, Option.mem_def, Option.ite_none_right_eq_some] at found
    obtain rfl := Option.some.inj found.2
    have cursor : Compose.lineCursor editor + skipped = before.width := by
      simp only [Compose.lineCursor, ← column, screenWord]
      rw [Nat.mod_eq_of_lt (by omega)]
      omega
    constructor
    · obtain ⟨behind, all⟩ := exists_clusters_segments unsuffixed text.separate
      have shown : (Compose.lineRow editor).drawing = tail ++ behind := by
        rw [Compose.lineRow, all, ← column, Compose.scroll_append enough]
      have inside : tail.total ≤ editor.size.columns := by
        rcases scrolled with ⟨_, left⟩ | ⟨_, left⟩ <;> omega
      have first : Frame.row ⟨editor.size.columns,
          (Compose.drawnRows editor).map (DrawnRow.painted editor.size.columns)⟩ 0 =
            Row.painted editor.size.columns (Compose.lineRow editor).drawing := by
        simp only [Compose.drawnRows, inactive]
        rfl
      rw [first, shown, Row.painted_append inside]
      exact ⟨_, rfl⟩
    · change (Compose.lineCursor editor = tail.width ↔ _) ∧
        (_ → Compose.lineCursor editor = tail.width + 1)
      rcases scrolled with ⟨cut, left⟩ | ⟨uncut, left⟩
      · exact ⟨iff_of_true (by omega) cut, fun uncut => absurd cut uncut⟩
      · exact ⟨iff_of_false (by omega) uncut, fun _ => by omega⟩

end Plain

/-- An editor on a narrow screen with a pasted line. -/
def pasted (line : Text) : Editor :=
  ((started EditorOptions.standard [] ⟨5, 4⟩ none).apply (.ofCandidates fun _ _ => [])
    (.paste line)).1

/-- The prompt is as wide as the wide character that needs its room. -/
theorem cursor_behind_wide_line :
    let editor := pasted (Text.of "漢漢")
    editor.options.prompt.Plain ∧ editor.buffer.shown.Plain ∧ editor.mode = .edit ∧
      editor.suffix? = none ∧ 0 < editor.size.columns ∧ editor.size.columns ≤ 65535 ∧
      editor.beforeCursor.CutAt 2 ∧
      ∃ composed ∈ editor.compose,
        composed.cursor = (Compose.scroll 2 editor.beforeCursor).width := by
  intro editor
  have cut : editor.beforeCursor.CutAt 2 :=
    ⟨editor.beforeCursor.take 2, editor.beforeCursor.drop 2,
      (List.take_append_drop 2 _).symm, by decide +kernel⟩
  have facts : editor.options.prompt.Plain ∧ editor.buffer.shown.Plain ∧ editor.mode = .edit ∧
      editor.suffix? = none ∧ editor.size.columns = 5 ∧ editor.beforeCursor.width = 6 := by
    decide +kernel
  obtain ⟨prompt, text, editing, unsuffixed, columns, width⟩ := facts
  obtain ⟨_, _, composes, right⟩ :=
    cursor_compose prompt text editing unsuffixed (by omega) (by omega)
  obtain ⟨composed, found⟩ := Option.isSome_iff_exists.1 (composes.2 (drawable_of_ne (by omega)))
  have reported := (right composed found).2.1
  rw [width, columns] at reported
  exact ⟨prompt, text, editing, unsuffixed, by omega, by omega, cut, composed, found,
    reported.2 cut⟩

/-- One character more cuts the first wide character in two, and then the cursor is behind no tail
of the clusters before it. -/
theorem cursor_beside_wide_line :
    let editor := pasted (Text.of "漢漢a")
    editor.options.prompt.Plain ∧ editor.buffer.shown.Plain ∧ editor.mode = .edit ∧
      editor.suffix? = none ∧ 0 < editor.size.columns ∧ editor.size.columns ≤ 65535 ∧
      ∃ composed ∈ editor.compose, ∀ tail : Drawing, tail <:+ editor.beforeCursor →
        composed.cursor ≠ tail.width := by
  intro editor
  have facts : editor.options.prompt.Plain ∧ editor.buffer.shown.Plain ∧ editor.mode = .edit ∧
      editor.suffix? = none ∧ 0 < editor.size.columns ∧ editor.size.columns ≤ 65535 := by
    decide +kernel
  have cursor : editor.compose.map Composed.cursor = some 4 := by decide +kernel
  have apart : ∀ tail ∈ List.tails editor.beforeCursor, 4 ≠ Drawing.width tail := by
    decide +kernel
  obtain ⟨prompt, text, editing, unsuffixed, room, word⟩ := facts
  obtain ⟨composed, found, reported⟩ := Option.map_eq_some_iff.1 cursor
  refine ⟨prompt, text, editing, unsuffixed, room, word, composed, found, ?_⟩
  intro tail suffix
  rw [reported]
  exact apart tail ((List.mem_tails _ _).2 suffix)

end Editor

end Promptline
