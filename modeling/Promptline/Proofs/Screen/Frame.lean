/-
This file describes a composed frame by its rows. Every row is painted from a drawing of its own,
and the selected candidate is highlighted in it.
-/

import Promptline.Proofs.Screen.Row

namespace Promptline

/-- What is drawn into a row, with the span that is highlighted. -/
structure DrawnRow where
  drawing : Drawing
  highlight? : Option (Nat × Nat)

namespace DrawnRow

def painted (width : Nat) (row : DrawnRow) : Row :=
  match row.highlight? with
  | some (column, span) => (Row.painted width row.drawing).addFlags column span .reversed
  | none => Row.painted width row.drawing

@[simp] theorem length_painted (width : Nat) (row : DrawnRow) :
    (row.painted width).length = width := by
  cases highlighted : row.highlight? <;> simp [painted, highlighted]

end DrawnRow

namespace BoxRow

def drawn (row : BoxRow) : DrawnRow where
  drawing := row.text.clusters.map fun cluster => (cluster, row.flags)
  highlight? := row.highlight?

end BoxRow

namespace SearchRow

def drawn (row : SearchRow) : DrawnRow where
  drawing := row.command.clusters.mapIdx fun index cluster =>
    (cluster, Compose.searchFlags row index)
  highlight? := none

end SearchRow

namespace HistorySearch

/-- The box has at most as many rows as it is high. -/
theorem length_rows_box_le (search : HistorySearch) (height : Nat) :
    (search.box height).rows.length ≤ height := by
  have size := Window.around_size search.matched.length search.selected height
  simp only [box]
  split
  · refine Nat.le_trans (List.length_filterMap_le _ _) ?_
    rw [List.length_mapIdx, List.length_drop, List.length_take]
    simp only [window]
    omega
  · exact Nat.zero_le height

end HistorySearch

namespace Compose

/-- The input line from the first column on that is in sight. -/
def lineRow (editor : Editor) : DrawnRow where
  drawing := scroll (editor.lineView.column + 1 - editor.size.columns)
    (Segment.clusters (segments editor.lineView))
  highlight? := none

/-- The prompt of the search, cut at the right edge. -/
def promptRow (editor : Editor) : DrawnRow where
  drawing := (editor.search.prompt.truncate editor.size.columns).clusters.map fun cluster =>
    (cluster, .none)
  highlight? := none

/-- The rows of the completion box for which there is room on the screen. -/
def shownBox (editor : Editor) : List BoxRow :=
  let rows := completionRows editor
  rows.take (editor.size.box (screenWord rows.length)).height

/-- The rows of the search box for which there is room on the screen. -/
def shownMatches (editor : Editor) : List SearchRow :=
  (editor.search.box (editor.size.box editor.options.historyHeight).height).rows

/-- All rows of the frame, from the prompt row on. -/
def drawnRows (editor : Editor) : List DrawnRow :=
  if editor.search.active then promptRow editor :: (shownMatches editor).map SearchRow.drawn
  else lineRow editor :: (shownBox editor).map BoxRow.drawn

/-- The column of the cursor in the input line. -/
def lineCursor (editor : Editor) : Nat :=
  let column := editor.lineView.column
  screenWord (min (column - (column + 1 - editor.size.columns)) (editor.size.columns - 1))

/-- The column of the cursor in the prompt of the search. -/
def promptCursor (editor : Editor) : Nat :=
  min (screenWord (editor.search.promptHead.width + editor.search.query.width))
    (max ((promptRow editor).drawing.fitting editor.size.columns).total 1 - 1)

end Compose

/-- Every row of the screen has room for what is drawn into it. -/
def Editor.Drawable (editor : Editor) : Prop :=
  ∀ row ∈ Compose.drawnRows editor, row.drawing.Drawable editor.size.columns

instance (editor : Editor) : Decidable editor.Drawable :=
  inferInstanceAs (Decidable (∀ row ∈ Compose.drawnRows editor, _))

namespace Frame

/-- The row takes the place of another one. -/
def setRow (frame : Frame) (y : Nat) (row : Row) : Frame :=
  { frame with rows := frame.rows.set y row }

@[simp] theorem row_setRow {frame : Frame} {y : Nat} (inside : y < frame.height) (row : Row) :
    (frame.setRow y row).row y = row := by
  simp [setRow, Frame.row, List.getD_eq_getElem?_getD, show y < frame.rows.length from inside]

@[simp] theorem setRow_setRow (frame : Frame) (y : Nat) (first second : Row) :
    (frame.setRow y first).setRow y second = frame.setRow y second := by
  simp [setRow]

@[simp] theorem height_setRow (frame : Frame) (y : Nat) (row : Row) :
    (frame.setRow y row).height = frame.height := by
  simp [setRow, height]

theorem setRow_row (frame : Frame) (y : Nat) : frame.setRow y (frame.row y) = frame := by
  by_cases inside : y < frame.rows.length
  · simp [setRow, Frame.row, List.getD_eq_getElem?_getD, inside]
  · simp [setRow, List.set_eq_of_length_le (Nat.le_of_not_lt inside)]

/-- The first row below some others takes their place at the end. -/
theorem setRow_append (width : Nat) (front : List Row) (old new : Row) (behind : List Row) :
    setRow ⟨width, front ++ old :: behind⟩ front.length new = ⟨width, front ++ new :: behind⟩ := by
  simp [setRow]

theorem row_append (width : Nat) (front : List Row) (first : Row) (behind : List Row) :
    row ⟨width, front ++ first :: behind⟩ front.length = first := by
  simp [row]

/-- A blank frame with another first row. -/
theorem setRow_blank (width count : Nat) (first : Row) :
    (blank width (1 + count)).setRow 0 first =
      ⟨width, [first] ++ List.replicate count (Row.blank width)⟩ := by
  rw [blank, Nat.add_comm, List.replicate_succ]
  rfl

/-- A text in one row leaves the others alone. -/
theorem row_of_put {frame after : Frame} {x y other next : Nat} {text : Text} {flags : Flags}
    (apart : other ≠ y) (written : frame.put x y text flags = some (after, next)) :
    after.row other = frame.row other := by
  unfold put at written
  split at written
  · obtain ⟨⟨row, column⟩, -, same⟩ := Option.bind_eq_some_iff.1 written
    obtain ⟨rfl, -⟩ := Prod.mk.inj (Option.some.inj same)
    simp [Frame.row, List.getElem?_set_ne (Ne.symm apart)]
  · obtain ⟨rfl, -⟩ := Prod.mk.inj (Option.some.inj written)
    rfl

/-- A text that is written into the blank end of a row. -/
theorem put_append {frame : Frame} {y : Nat} (inside : y < frame.height) {front : List Cell}
    {room : Nat} (row_eq : frame.row y = front ++ Row.blank room)
    (word : front.length + room ≤ 65535) {text : Text} {flags : Flags} {drawing : Drawing}
    (same : drawing = text.clusters.map fun cluster => (cluster, flags)) :
    frame.put front.length y text flags =
      if drawing.DrawableFrom front.length (front.length + room) then
        some (frame.setRow y (front ++ Row.painted room drawing),
          front.length + (drawing.fitting room).total)
      else none := by
  rw [put, if_pos inside, row_eq, Row.putClusters_append word same]
  split <;> rfl

/-- A text that is written into a blank row. -/
theorem put_blank {frame : Frame} {y : Nat} (inside : y < frame.height) {width : Nat}
    (row_eq : frame.row y = Row.blank width) (word : width ≤ 65535) {text : Text} {flags : Flags}
    {drawing : Drawing} (same : drawing = text.clusters.map fun cluster => (cluster, flags)) :
    frame.put 0 y text flags =
      if drawing.Drawable width then
        some (frame.setRow y (Row.painted width drawing), (drawing.fitting width).total)
      else none := by
  have written := @put_append frame y inside [] width row_eq
  simp only [List.length_nil, Nat.zero_add, List.nil_append, Drawing.drawableFrom_zero] at written
  exact written word same

/-- Behind a cluster that fits the row is blank. -/
theorem row_setRow_singleton {frame : Frame} {y : Nat} (inside : y < frame.height)
    (front : List Cell) {room : Nat} {drawn : Text × Flags} (fits : drawn.1.drawnWidth ≤ room) :
    (frame.setRow y (front ++ Row.painted room [drawn])).row y =
      front ++ Row.cover drawn.1 drawn.1.drawnWidth drawn.2 ++
        Row.blank (room - drawn.1.drawnWidth) := by
  rw [row_setRow inside, Row.painted_cons_of_le fits, List.append_assoc]
  rfl

theorem addFlags_setRow {frame : Frame} {y : Nat} (inside : y < frame.height) (row : Row)
    (x span : Nat) (flags : Flags) :
    (frame.setRow y row).addFlags x y span flags = frame.setRow y (row.addFlags x span flags) := by
  refine congrArg (Frame.mk frame.width) (List.ext_getElem? fun index => ?_)
  by_cases same : y = index
  · subst same
    simp [setRow, show y < frame.rows.length from inside]
  · simp [setRow, same]

end Frame

namespace Compose

/-- Whole clusters that are written one by one are shown as a text of them is. -/
theorem putAll_append {frame : Frame} {y : Nat} (inside : y < frame.height) {front : List Cell}
    {room : Nat} (row_eq : frame.row y = front ++ Row.blank room)
    (word : front.length + room ≤ 65535) {drawing : Drawing} (whole : drawing.Whole) :
    putAll frame front.length y drawing =
      if drawing.DrawableFrom front.length (front.length + room) then
        some (frame.setRow y (front ++ Row.painted room drawing))
      else none := by
  induction drawing generalizing frame front room with
  | nil =>
      rw [if_pos (Drawing.drawableFrom_nil (Nat.le_add_right ..)), putAll, Row.painted_nil,
        ← row_eq, Frame.setRow_row]
  | cons drawn rest inductionHypothesis =>
      have positive := drawn.1.drawnWidth_pos
      have written := Frame.put_append inside row_eq word whole.singleton_eq
      rw [putAll, written]
      by_cases fits : drawn.1.drawnWidth ≤ room
      · have reached := Row.length_append_cover front drawn.1 drawn.2
        have wide : front.length + room =
            (front ++ Row.cover drawn.1 drawn.1.drawnWidth drawn.2).length +
              (room - drawn.1.drawnWidth) := by omega
        have started : Drawing.DrawableFrom [drawn] front.length (front.length + room) :=
          (Drawing.drawableFrom_cons ..).2 (Drawing.drawableFrom_nil (by omega))
        have there : y < (frame.setRow y (front ++ Row.painted room [drawn])).height := by
          rwa [Frame.height_setRow]
        have further := inductionHypothesis there (Frame.row_setRow_singleton inside front fits)
          (wide ▸ word) whole.of_cons
        rw [if_pos started, Drawing.fitting_cons_of_le fits]
        simp only [Option.bind_eq_bind, Option.bind_some, Drawing.fitting, Drawing.total_cons,
          Drawing.total_nil, Nat.add_zero, Drawing.drawableFrom_cons,
          if_neg (show ¬ front.length + drawn.1.drawnWidth = front.length by omega)]
        rw [← reached, further, Frame.setRow_setRow, wide, Row.painted_cons_of_le fits,
          List.append_assoc]
      · have beyond : front.length + room < front.length + drawn.1.drawnWidth := by omega
        by_cases widest : front.length + room = 65535
        · have undrawable := Drawing.not_drawableFrom_cons widest beyond
          rw [if_neg (undrawable []), if_neg (undrawable rest)]
          rfl
        · have narrow := Nat.lt_of_not_le fits
          have drawable := fun drawing => Drawing.drawableFrom_of_ne widest drawing front.length
          rw [if_pos (drawable _), if_pos (drawable _), Drawing.fitting_cons_of_lt narrow,
            Row.painted_cons_of_lt narrow, Row.painted_cons_of_lt narrow]
          simp

/-- Clusters that are written into a blank row. -/
theorem putAll_blank {frame : Frame} {y : Nat} (inside : y < frame.height) {width : Nat}
    (row_eq : frame.row y = Row.blank width) (word : width ≤ 65535) {drawing : Drawing}
    (whole : drawing.Whole) :
    putAll frame 0 y drawing =
      if drawing.Drawable width then some (frame.setRow y (Row.painted width drawing))
      else none := by
  have written := @putAll_append frame y inside [] width row_eq
  simp only [List.length_nil, Nat.zero_add, List.nil_append, Drawing.drawableFrom_zero] at written
  exact written word whole

/-- A row that is drawn in place of a blank one if it has room for its drawing. -/
def Draws {α : Type} (draw : Frame → Nat → α → Option Frame) (width : Nat) (row : α)
    (drawn : DrawnRow) : Prop :=
  ∀ frame y, y < frame.height → frame.row y = Row.blank width →
    draw frame y row =
      if drawn.drawing.Drawable width then some (frame.setRow y (drawn.painted width)) else none

/-- Rows are drawn below each other if each of them has room for its drawing. -/
theorem drawRows_of_draws {α : Type} {draw : Frame → Nat → α → Option Frame} {width : Nat}
    {rows : List α} {drawn : α → DrawnRow} (draws : ∀ row ∈ rows, Draws draw width row (drawn row))
    (front : List Row) :
    drawRows draw ⟨width, front ++ List.replicate rows.length (Row.blank width)⟩ front.length rows =
      if ∀ row ∈ rows, (drawn row).drawing.Drawable width then
        some ⟨width, front ++ rows.map fun row => (drawn row).painted width⟩
      else none := by
  induction rows generalizing front with
  | nil => rw [if_pos (by simp), drawRows, List.map_nil, List.length_nil, List.replicate_zero]
  | cons row rest inductionHypothesis =>
      obtain ⟨first, others⟩ := List.forall_mem_cons.1 draws
      have further := inductionHypothesis others (front ++ [(drawn row).painted width])
      rw [drawRows, List.length_cons, List.replicate_succ,
        first _ _ (by simp [Frame.height]) (Frame.row_append ..)]
      by_cases drawable : (drawn row).drawing.Drawable width
      · rw [if_pos drawable, Frame.setRow_append]
        simpa [drawable] using further
      · rw [if_neg drawable, if_neg fun all => drawable (all row List.mem_cons_self)]
        rfl

/-- The rows of a box take the place of blank rows below the first one. -/
theorem drawRows_below {α : Type} {draw : Frame → Nat → α → Option Frame} {width : Nat}
    {rows : List α} {drawn : α → DrawnRow} (draws : ∀ row ∈ rows, Draws draw width row (drawn row))
    (first : Row) :
    drawRows draw ((Frame.blank width (1 + rows.length)).setRow 0 first) 1 rows =
      if ∀ row ∈ rows, (drawn row).drawing.Drawable width then
        some ⟨width, first :: rows.map fun row => (drawn row).painted width⟩
      else none := by
  rw [Frame.setRow_blank]
  exact drawRows_of_draws draws [first]

/-- Rows below each other leave the rows above them alone. -/
theorem row_of_drawRows {α : Type} {draw : Frame → Nat → α → Option Frame} {other : Nat}
    (keeps : ∀ {frame after y row}, other < y → draw frame y row = some after →
      after.row other = frame.row other)
    {frame after : Frame} {y : Nat} (above : other < y) {rows : List α}
    (drawn : drawRows draw frame y rows = some after) : after.row other = frame.row other := by
  induction rows generalizing frame y with
  | nil =>
      obtain rfl := Option.some.inj drawn
      rfl
  | cons row rest inductionHypothesis =>
      obtain ⟨next, first, others⟩ := Option.bind_eq_some_iff.1 drawn
      rw [inductionHypothesis (Nat.lt_succ_of_lt above) others, keeps above first]

/-- A painted row that is highlighted afterwards. -/
theorem draws_drawBoxRow {width : Nat} (word : width ≤ 65535) (row : BoxRow) :
    Draws drawBoxRow width row row.drawn := by
  intro frame y inside blank
  have written := @Frame.put_blank frame y inside width blank word row.text row.flags
    row.drawn.drawing rfl
  rw [drawBoxRow, written]
  split
  · simp only [Option.bind_eq_bind, Option.bind_some, DrawnRow.painted]
    rw [show row.drawn.highlight? = row.highlight? from rfl]
    cases row.highlight? with
    | none => rfl
    | some span => exact congrArg some (Frame.addFlags_setRow inside ..)
  · rfl

theorem whole_mapIdx_clusters (text : Text) (flags : Nat → Flags) :
    Drawing.Whole (text.clusters.mapIdx fun index cluster => (cluster, flags index)) := by
  intro drawn member
  obtain ⟨index, inside, rfl⟩ := List.mem_mapIdx.1 member
  exact Text.clusters_of_mem_clusters (List.getElem_mem inside)

theorem draws_drawSearchRow {width : Nat} (word : width ≤ 65535) (row : SearchRow) :
    Draws drawSearchRow width row row.drawn := by
  intro frame y inside blank
  exact putAll_blank inside blank word (whole_mapIdx_clusters row.command (searchFlags row))

theorem scroll_zero (drawing : Drawing) : scroll 0 drawing = drawing := by
  cases drawing <;> rfl

theorem scroll_suffix (columns : Nat) (drawing : Drawing) : scroll columns drawing <:+ drawing := by
  induction drawing generalizing columns with
  | nil => exact List.suffix_rfl
  | cons drawn rest inductionHypothesis =>
      simp only [scroll]
      split
      · exact List.suffix_rfl
      · exact (inductionHypothesis _).trans (List.suffix_cons _ _)

theorem whole_lineRow (editor : Editor) : (lineRow editor).drawing.Whole := by
  intro drawn member
  obtain ⟨segment, _, held⟩ := List.mem_flatMap.1 ((scroll_suffix _ _).subset member)
  obtain ⟨cluster, found, rfl⟩ := List.mem_map.1 held
  exact Text.clusters_of_mem_clusters found

theorem height_blank_pos (width count : Nat) : 0 < (Frame.blank width (1 + count)).height := by
  rw [Frame.height, Frame.blank, List.length_replicate]
  omega

theorem row_blank (width count : Nat) :
    (Frame.blank width (1 + count)).row 0 = Row.blank width := by
  rw [Frame.row, Frame.blank, Nat.add_comm, List.replicate_succ]
  rfl

/-- The box shows as many rows as the region below the input line has. -/
theorem length_shownBox (editor : Editor) :
    (shownBox editor).length =
      (editor.size.box (screenWord (completionRows editor).length)).height := by
  have cut := Nat.min_le_left (screenWord (completionRows editor).length) (editor.size.rows - 1)
  have less := Nat.mod_le (completionRows editor).length 65536
  simp only [shownBox, List.length_take, ScreenSize.box, screenWord] at cut ⊢
  omega

/-- The box shows no more rows than there are below the input line. -/
theorem length_shownBox_le (editor : Editor) :
    (shownBox editor).length ≤ editor.size.rows - 1 := by
  rw [length_shownBox]
  exact Nat.min_le_right _ _

/-- The search shows no more rows than there are below its prompt. -/
theorem length_shownMatches_le (editor : Editor) :
    (shownMatches editor).length ≤ editor.size.rows - 1 :=
  Nat.le_trans (HistorySearch.length_rows_box_le editor.search _) (Nat.min_le_right _ _)

theorem search_eq_bind (editor : Editor) :
    search editor =
      ((Frame.blank editor.size.columns (1 + screenWord (shownMatches editor).length)).put 0 0
        (editor.search.prompt.truncate editor.size.columns) .none).bind fun prompted =>
          (drawRows drawSearchRow prompted.1 1 (shownMatches editor)).bind fun frame =>
            some ⟨frame, min (screenWord (editor.search.promptHead.width +
              editor.search.query.width)) (max prompted.2 1 - 1)⟩ := rfl

section Frames

variable {editor : Editor} (word : editor.size.columns ≤ 65535)

include word

/-- The frame of an edited line, if every row has room for its drawing. -/
theorem edit_eq :
    edit editor =
      if (lineRow editor).drawing.Drawable editor.size.columns ∧
          ∀ row ∈ shownBox editor, row.drawn.drawing.Drawable editor.size.columns then
        some ⟨⟨editor.size.columns, (lineRow editor :: (shownBox editor).map BoxRow.drawn).map
          (DrawnRow.painted editor.size.columns)⟩, lineCursor editor⟩
      else none := by
  have composed : edit editor =
      (putAll (.blank editor.size.columns (1 + (shownBox editor).length)) 0 0
        (lineRow editor).drawing).bind fun line =>
          (drawRows drawBoxRow line 1 (shownBox editor)).bind fun frame =>
            some ⟨frame, lineCursor editor⟩ := by
    rw [length_shownBox]
    rfl
  have line := @putAll_blank _ 0 (height_blank_pos editor.size.columns (shownBox editor).length)
    editor.size.columns (row_blank _ _) word (lineRow editor).drawing (whole_lineRow editor)
  have below := drawRows_below (fun row (_ : row ∈ shownBox editor) => draws_drawBoxRow word row)
    (Row.painted editor.size.columns (lineRow editor).drawing)
  rw [composed, line]
  by_cases first : (lineRow editor).drawing.Drawable editor.size.columns
  · rw [if_pos first, Option.bind_some, below, List.map_cons, List.map_map]
    simp only [first, true_and]
    split <;> rfl
  · rw [if_neg first, if_neg fun all => first all.1, Option.bind_none]

/-- The frame of a search, if every row has room for its drawing. -/
theorem search_eq (rows : editor.size.rows ≤ 65535) :
    search editor =
      if (promptRow editor).drawing.Drawable editor.size.columns ∧
          ∀ row ∈ shownMatches editor, row.drawn.drawing.Drawable editor.size.columns then
        some ⟨⟨editor.size.columns, (promptRow editor :: (shownMatches editor).map
          SearchRow.drawn).map (DrawnRow.painted editor.size.columns)⟩, promptCursor editor⟩
      else none := by
  have few := length_shownMatches_le editor
  have counted : screenWord (shownMatches editor).length = (shownMatches editor).length :=
    Nat.mod_eq_of_lt (by omega)
  have prompt := @Frame.put_blank _ 0
    (height_blank_pos editor.size.columns (shownMatches editor).length) _ (row_blank _ _) word
    (editor.search.prompt.truncate editor.size.columns) .none (promptRow editor).drawing
    (by rw [promptRow])
  have below := drawRows_below
    (fun row (_ : row ∈ shownMatches editor) => draws_drawSearchRow word row)
    (Row.painted editor.size.columns (promptRow editor).drawing)
  rw [search_eq_bind, counted, prompt]
  by_cases first : (promptRow editor).drawing.Drawable editor.size.columns
  · rw [if_pos first, Option.bind_some, below, List.map_cons, List.map_map]
    simp only [first, true_and]
    split <;> rfl
  · rw [if_neg first, if_neg fun all => first all.1, Option.bind_none]

end Frames

end Compose

namespace Editor

variable {editor : Editor}

theorem drawable_of_ne (narrow : editor.size.columns ≠ 65535) : editor.Drawable :=
  fun _ _ widest => absurd widest narrow

/-- The frame of an edited line is painted from its drawn rows. -/
theorem compose_of_editing (editing : editor.search.active = false)
    (word : editor.size.columns ≤ 65535) :
    editor.compose =
      if editor.Drawable then
        some ⟨⟨editor.size.columns,
          (Compose.drawnRows editor).map (DrawnRow.painted editor.size.columns)⟩,
          Compose.lineCursor editor⟩
      else none := by
  have inactive : ¬ editor.search.active = true := Bool.eq_false_iff.1 editing
  rw [compose, if_neg inactive, Compose.edit_eq word]
  simp only [Drawable, Compose.drawnRows, if_neg inactive, List.forall_mem_cons,
    List.forall_mem_map]

/-- The frame of a search is painted from its drawn rows. -/
theorem compose_of_searching (searching : editor.search.active = true)
    (word : editor.size.columns ≤ 65535) (rows : editor.size.rows ≤ 65535) :
    editor.compose =
      if editor.Drawable then
        some ⟨⟨editor.size.columns,
          (Compose.drawnRows editor).map (DrawnRow.painted editor.size.columns)⟩,
          Compose.promptCursor editor⟩
      else none := by
  rw [compose, if_pos searching, Compose.search_eq word rows]
  simp only [Drawable, Compose.drawnRows, if_pos searching, List.forall_mem_cons,
    List.forall_mem_map]

end Editor

end Promptline
