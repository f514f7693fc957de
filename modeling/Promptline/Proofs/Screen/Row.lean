/-
This file describes a row of the screen by what is drawn into it. A row shows the longest front of a
drawing that fits, and blanks behind it.
-/

import Promptline.Proofs.Text.Separate
import Promptline.Screen.Compose

namespace Promptline

namespace Drawing

/-- The columns that all clusters take together. -/
def total (drawing : Drawing) : Nat := (drawing.map fun drawn => drawn.1.drawnWidth).sum

/-- The cells that all clusters cover. -/
def cells (drawing : Drawing) : List Cell :=
  drawing.flatMap fun drawn => Row.cover drawn.1 drawn.1.drawnWidth drawn.2

/-- The longest front of the drawing that fits into the room. -/
def fitting (room : Nat) : Drawing → Drawing
  | [] => []
  | drawn :: rest =>
      if room < drawn.1.drawnWidth then [] else drawn :: fitting (room - drawn.1.drawnWidth) rest

/-- In the widest row no cluster is refused, so there the whole drawing needs its room. -/
def Drawable (drawing : Drawing) (width : Nat) : Prop := width = 65535 → drawing.total ≤ 65535

instance (drawing : Drawing) (width : Nat) : Decidable (drawing.Drawable width) :=
  inferInstanceAs (Decidable (width = 65535 → drawing.total ≤ 65535))

/-- From a column on the drawing has its room. -/
def DrawableFrom (drawing : Drawing) (column width : Nat) : Prop :=
  width = 65535 → column + drawing.total ≤ 65535

instance (drawing : Drawing) (column width : Nat) : Decidable (drawing.DrawableFrom column width) :=
  inferInstanceAs (Decidable (width = 65535 → column + drawing.total ≤ 65535))

/-- Every part of the drawing is one cluster. -/
def Whole (drawing : Drawing) : Prop := ∀ drawn ∈ drawing, drawn.1.clusters = [drawn.1]

@[simp] theorem total_nil : total [] = 0 := rfl

@[simp] theorem total_cons (drawn : Text × Flags) (rest : Drawing) :
    total (drawn :: rest) = drawn.1.drawnWidth + rest.total := rfl

@[simp] theorem total_append (first second : Drawing) :
    total (first ++ second) = first.total + second.total := by
  simp [total]

@[simp] theorem cells_cons (drawn : Text × Flags) (rest : Drawing) :
    cells (drawn :: rest) = Row.cover drawn.1 drawn.1.drawnWidth drawn.2 ++ rest.cells := rfl

@[simp] theorem cells_append (first second : Drawing) :
    cells (first ++ second) = first.cells ++ second.cells := List.flatMap_append

theorem drawableFrom_zero (drawing : Drawing) (width : Nat) :
    drawing.DrawableFrom 0 width ↔ drawing.Drawable width := by
  rw [DrawableFrom, Drawable, Nat.zero_add]

theorem drawableFrom_of_ne {width : Nat} (narrow : width ≠ 65535) (drawing : Drawing)
    (column : Nat) : drawing.DrawableFrom column width := fun widest => absurd widest narrow

theorem drawableFrom_nil {column width : Nat} (inside : column ≤ width) :
    DrawableFrom [] column width := fun widest => widest ▸ inside

/-- The rest is drawn behind the first cluster. -/
theorem drawableFrom_cons (drawn : Text × Flags) (rest : Drawing) (column width : Nat) :
    DrawableFrom (drawn :: rest) column width ↔
      rest.DrawableFrom (column + drawn.1.drawnWidth) width := by
  rw [DrawableFrom, DrawableFrom, total_cons, Nat.add_assoc]

/-- The widest row has no room for a drawing whose first cluster has none. -/
theorem not_drawableFrom_cons {drawn : Text × Flags} {column width : Nat} (widest : width = 65535)
    (narrow : width < column + drawn.1.drawnWidth) (rest : Drawing) :
    ¬ DrawableFrom (drawn :: rest) column width := by
  intro drawable
  have inside := drawable widest
  rw [total_cons] at inside
  omega

/-- A plain text is drawn as wide as it is. -/
theorem total_of_plain {text : Text} (plain : text.Plain) (flags : Flags) :
    total (text.clusters.map fun cluster => (cluster, flags)) = text.width := by
  rw [total, List.map_map, Text.width_eq_sum]
  exact congrArg List.sum (List.map_congr_left fun cluster member => plain.drawnWidth_eq member)

/-- The cells are as many as the columns. -/
@[simp] theorem length_cells (drawing : Drawing) : drawing.cells.length = drawing.total := by
  induction drawing with
  | nil => rfl
  | cons drawn rest inductionHypothesis =>
      rw [cells_cons, List.length_append, Row.length_cover drawn.1.drawnWidth_pos,
        inductionHypothesis, total_cons]

theorem fitting_cons_of_le {room : Nat} {drawn : Text × Flags} (fits : drawn.1.drawnWidth ≤ room)
    (rest : Drawing) :
    fitting room (drawn :: rest) = drawn :: rest.fitting (room - drawn.1.drawnWidth) := by
  rw [fitting, if_neg (Nat.not_lt.2 fits)]

theorem fitting_cons_of_lt {room : Nat} {drawn : Text × Flags}
    (narrow : room < drawn.1.drawnWidth) (rest : Drawing) : fitting room (drawn :: rest) = [] := by
  rw [fitting, if_pos narrow]

theorem total_fitting_le (room : Nat) (drawing : Drawing) :
    (drawing.fitting room).total ≤ room := by
  induction drawing generalizing room with
  | nil => exact Nat.zero_le room
  | cons drawn rest inductionHypothesis =>
      simp only [fitting]
      split
      · exact Nat.zero_le room
      · have others := inductionHypothesis (room - drawn.1.drawnWidth)
        rw [total_cons]
        omega

/-- A front that fits leaves its room to what is behind it. -/
theorem fitting_append {room : Nat} {first : Drawing} (inside : first.total ≤ room)
    (second : Drawing) :
    (first ++ second).fitting room = first ++ second.fitting (room - first.total) := by
  induction first generalizing room with
  | nil => rfl
  | cons drawn rest inductionHypothesis =>
      rw [total_cons] at inside
      have further := @inductionHypothesis (room - drawn.1.drawnWidth) (by omega)
      rw [List.cons_append, fitting, if_neg (by omega), further, total_cons, Nat.sub_sub,
        List.cons_append]

/-- Either everything fits, or the first cluster that is dropped has no room. -/
theorem fitting_cases (room : Nat) (drawing : Drawing) :
    drawing.fitting room = drawing ∨
      ∃ dropped rest, drawing = drawing.fitting room ++ dropped :: rest ∧
        room < (drawing.fitting room).total + dropped.1.drawnWidth := by
  induction drawing generalizing room with
  | nil => exact .inl rfl
  | cons drawn rest inductionHypothesis =>
      simp only [fitting]
      split
      next narrow => exact .inr ⟨drawn, rest, rfl, by simpa using narrow⟩
      next wide =>
        rcases inductionHypothesis (room - drawn.1.drawnWidth) with whole | ⟨dropped, others, cut⟩
        · exact .inl (congrArg _ whole)
        · refine .inr ⟨dropped, others, ?_⟩
          rw [total_cons, List.cons_append]
          exact ⟨congrArg _ cut.1, by omega⟩

theorem fitting_isPrefix (room : Nat) (drawing : Drawing) : drawing.fitting room <+: drawing := by
  rcases drawing.fitting_cases room with whole | ⟨dropped, rest, cut, _⟩
  · exact ⟨[], by rw [whole, List.append_nil]⟩
  · exact ⟨dropped :: rest, cut.symm⟩

/-- How many clusters fit does not depend on their flags. -/
theorem length_fitting_congr {first second : Drawing}
    (same : first.map Prod.fst = second.map Prod.fst) (room : Nat) :
    (first.fitting room).length = (second.fitting room).length := by
  induction first generalizing second room with
  | nil => rw [List.map_eq_nil_iff.1 same.symm]
  | cons drawn rest inductionHypothesis =>
      obtain ⟨other, others, rfl, cluster, alike⟩ := List.map_eq_cons_iff.1 same.symm
      simp only [fitting, ← cluster]
      split
      · rfl
      · exact congrArg (· + 1) (inductionHypothesis alike.symm _)

/-- One whole cluster is drawn as a text. -/
theorem Whole.singleton_eq {drawn : Text × Flags} {rest : Drawing} (whole : Whole (drawn :: rest)) :
    [drawn] = drawn.1.clusters.map fun cluster => (cluster, drawn.2) := by
  rw [whole drawn List.mem_cons_self]
  rfl

theorem Whole.of_cons {drawn : Text × Flags} {rest : Drawing} (whole : Whole (drawn :: rest)) :
    rest.Whole := (List.forall_mem_cons.1 whole).2

end Drawing

namespace Row

/-- The front of the drawing that fits, and blanks up to the right edge. -/
def painted (width : Nat) (drawing : Drawing) : Row :=
  (drawing.fitting width).cells ++ blank (width - (drawing.fitting width).total)

@[simp] theorem length_blank (width : Nat) : (blank width).length = width := List.length_replicate

@[simp] theorem length_painted (width : Nat) (drawing : Drawing) :
    (painted width drawing).length = width := by
  have inside := drawing.total_fitting_le width
  simp only [painted, List.length_append, Drawing.length_cells, length_blank]
  omega

/-- What fits at the start of a row leaves the rest of the row to what is behind it. -/
theorem painted_append {width : Nat} {first : Drawing} (inside : first.total ≤ width)
    (second : Drawing) :
    painted width (first ++ second) = first.cells ++ painted (width - first.total) second := by
  simp only [painted, Drawing.fitting_append inside, Drawing.cells_append, Drawing.total_append,
    Nat.sub_sub, List.append_assoc]

/-- A first cluster that fits stands at the start of the row. -/
theorem painted_cons_of_le {room : Nat} {drawn : Text × Flags} (fits : drawn.1.drawnWidth ≤ room)
    (rest : Drawing) :
    painted room (drawn :: rest) =
      cover drawn.1 drawn.1.drawnWidth drawn.2 ++ painted (room - drawn.1.drawnWidth) rest := by
  simp only [painted, Drawing.fitting_cons_of_le fits, Drawing.cells_cons, Drawing.total_cons,
    Nat.sub_sub, List.append_assoc]

/-- A first cluster without room leaves the row blank. -/
theorem painted_cons_of_lt {room : Nat} {drawn : Text × Flags} (narrow : room < drawn.1.drawnWidth)
    (rest : Drawing) : painted room (drawn :: rest) = blank room := by
  rw [painted, Drawing.fitting_cons_of_lt narrow]
  rfl

theorem length_append_cover (front : List Cell) (cluster : Text) (flags : Flags) :
    (front ++ cover cluster cluster.drawnWidth flags).length =
      front.length + cluster.drawnWidth := by
  rw [List.length_append, length_cover cluster.drawnWidth_pos]

theorem painted_nil (room : Nat) : painted room [] = blank room := rfl

theorem drop_blank (place width : Nat) : (blank width).drop place = blank (width - place) :=
  List.drop_replicate

/-- Cells behind the first part of a row take the place of blanks. -/
theorem write_append_blank (front cells : List Cell) (room : Nat) :
    write (front ++ blank room) front.length cells =
      front ++ cells ++ blank (room - cells.length) := by
  rw [write, List.take_left, ← List.drop_drop, List.drop_left, drop_blank]

/-- The cells are those of the front that fits. There are none if the drawing lacks its room. -/
theorem fill_eq {width column : Nat} (word : width ≤ 65535) (inside : column ≤ width)
    {flags : Flags} {clusters : List Text} {drawing : Drawing}
    (same : drawing = clusters.map fun cluster => (cluster, flags)) :
    fill width flags column clusters =
      if drawing.DrawableFrom column width then
        some ((drawing.fitting (width - column)).cells,
          column + (drawing.fitting (width - column)).total)
      else none := by
  subst same
  induction clusters generalizing column with
  | nil =>
      rw [List.map_nil, if_pos (Drawing.drawableFrom_nil inside)]
      rfl
  | cons cluster rest inductionHypothesis =>
      rw [List.map_cons, fill]
      by_cases fits : cluster.drawnWidth ≤ width - column
      · have accepted : ¬ width < min (column + cluster.drawnWidth) 65535 := by omega
        have further := @inductionHypothesis (column + cluster.drawnWidth) (by omega)
        rw [if_neg accepted, if_pos (by omega), further, Drawing.fitting_cons_of_le fits]
        simp only [Drawing.drawableFrom_cons, Nat.sub_sub]
        split
        · simp [Nat.add_assoc]
        · rfl
      · have beyond : width < column + cluster.drawnWidth := by omega
        by_cases widest : width = 65535
        · rw [if_neg (by omega), if_neg (by omega),
            if_neg (Drawing.not_drawableFrom_cons widest beyond _)]
        · rw [if_pos (by omega), if_pos (Drawing.drawableFrom_of_ne widest _ _),
            Drawing.fitting_cons_of_lt (Nat.lt_of_not_le fits)]
          rfl

/-- A row with blanks behind the column shows what of the drawing fits into it. -/
theorem putClusters_append {front : List Cell} {room : Nat} (word : front.length + room ≤ 65535)
    {flags : Flags} {clusters : List Text} {drawing : Drawing}
    (same : drawing = clusters.map fun cluster => (cluster, flags)) :
    putClusters (front ++ blank room) front.length flags clusters =
      if drawing.DrawableFrom front.length (front.length + room) then
        some (front ++ painted room drawing, front.length + (drawing.fitting room).total)
      else none := by
  have wide : (front ++ blank room : Row).length = front.length + room := by simp
  have filled := @fill_eq _ front.length word (Nat.le_add_right ..) flags clusters drawing same
  rw [Nat.add_sub_cancel_left] at filled
  rw [putClusters, wide, filled]
  split
  · simp only [Option.bind_eq_bind, Option.bind_some]
    rw [write_append_blank, Drawing.length_cells, painted, List.append_assoc]
  · rfl

/-- A painted cell has the flags of something that is drawn, or none. -/
theorem flags_of_mem_painted {width : Nat} {drawing : Drawing} {cell : Cell}
    (member : cell ∈ painted width drawing) :
    cell.flags = .none ∨ ∃ drawn ∈ drawing, cell.flags = drawn.2 := by
  rcases List.mem_append.1 member with written | blank
  · right
    obtain ⟨drawn, held, covered⟩ := List.mem_flatMap.1 written
    refine ⟨drawn, (drawing.fitting_isPrefix width).subset held, ?_⟩
    rcases List.mem_cons.1 covered with rfl | continued
    · rfl
    · rw [List.eq_of_mem_replicate continued]
      rfl
  · left
    rw [List.eq_of_mem_replicate blank]
    rfl

/-- Flags behind the start of a row are added to what stands there. -/
theorem drop_addFlags (front behind : List Cell) (span : Nat) (flags : Flags) :
    (addFlags (front ++ behind) front.length span flags).drop front.length =
      addFlags behind 0 span flags := by
  have long : (front.mapIdx fun index cell =>
      if front.length ≤ index ∧ index < front.length + span then
        { cell with flags := cell.flags.union flags } else cell).length = front.length :=
    List.length_mapIdx
  rw [addFlags, List.mapIdx_append, List.drop_left' long, addFlags]
  simp only [Nat.zero_add, Nat.zero_le, true_and, Nat.le_add_right, Nat.add_comm _ front.length,
    Nat.add_lt_add_iff_left]

theorem getElem?_addFlags (row : Row) (column span : Nat) (flags : Flags) (place : Nat) :
    (row.addFlags column span flags)[place]? = row[place]?.map fun cell =>
      if column ≤ place ∧ place < column + span then { cell with flags := cell.flags.union flags }
      else cell := List.getElem?_mapIdx

end Row

end Promptline
