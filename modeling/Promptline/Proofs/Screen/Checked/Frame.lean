/-
This file draws rows with words that overflow. On a frame whose rows are as long as it is wide
nothing overflows but the column behind a cluster, and the drawing fails just where that column is
no word.
-/

import Promptline.Proofs.Screen.Checked.Text
import Promptline.Proofs.Screen.Frame

namespace Promptline

namespace Row

open Checked

/-- A cell outside the width is left out. A cell inside has to exist. -/
def set? (width : Nat) (row : Row) (column : Nat) (cell : Cell) : Option Row :=
  if column < width then if column < row.length then some (row.set column cell) else none
  else some row

/-- The continuations of a cluster are written at the given steps behind its column. -/
def continue? (width : Nat) (flags : Flags) (column : Nat) (row : Row) : List Nat → Option Row
  | [] => some row
  | step :: rest => do
      let place ← sum? short column step
      let row ← row.set? width place (.continuation flags)
      continue? width flags column row rest

def cover? (row : Row) (width : Nat) (flags : Flags) (column : Nat) (cluster : Text) :
    Option Row := do
  let row ← row.set? width column (.leader cluster cluster.drawnWidth flags)
  continue? width flags column row (List.range' 1 (cluster.drawnWidth - 1))

/-- Every cell is written by itself. The sum that is compared with the width does not overflow. -/
def putClusters? (width : Nat) (flags : Flags) (row : Row) (column : Nat) :
    List Text → Option (Row × Nat)
  | [] => some (row, column)
  | cluster :: rest =>
      let size := cluster.drawnWidth
      if width < min (column + size) 65535 then some (row, column)
      else do
        let row ← row.cover? width flags column cluster
        let next ← sum? short column size
        putClusters? width flags row next rest

/-- Cells inside the row leave its length as it is. -/
theorem length_write {row : Row} {column : Nat} {cells : List Cell}
    (inside : column + cells.length ≤ row.length) :
    (row.write column cells).length = row.length := by
  simp only [write, List.length_append, List.length_take, List.length_drop]
  omega

theorem set_eq_write {row : Row} {column : Nat} (inside : column < row.length) (cell : Cell) :
    row.set column cell = row.write column [cell] := by
  rw [List.set_eq_take_append_cons_drop, if_pos inside, write, List.append_assoc]
  rfl

/-- Cells that are written right behind others are written with them. -/
theorem write_write {row : Row} {column : Nat} {first : List Cell}
    (inside : column + first.length ≤ row.length) (second : List Cell) :
    (row.write column first).write (column + first.length) second =
      row.write column (first ++ second) := by
  have front : (row.take column ++ first).length = column + first.length := by
    rw [List.length_append, List.length_take]
    omega
  simp only [write]
  rw [List.take_left' front, ← List.drop_drop, List.drop_left' front, List.drop_drop,
    List.length_append]
  simp only [List.append_assoc, Nat.add_assoc]

/-- A cluster that has room is written as a whole. -/
theorem cover?_eq {row : Row} (word : row.length < short) {column : Nat} {cluster : Text}
    (inside : column + cluster.drawnWidth ≤ row.length) (flags : Flags) :
    cover? row row.length flags column cluster =
      some (row.write column (cover cluster cluster.drawnWidth flags)) := by
  have positive := cluster.drawnWidth_pos
  have narrow := cluster.drawnWidth_le
  have started : column < row.length := by omega
  rw [cover?, set?, if_pos started, if_pos started, set_eq_write started]
  by_cases single : cluster.drawnWidth = 1
  · rw [single]
    rfl
  · have double : cluster.drawnWidth = 2 := by omega
    have wide : (row.write column [.leader cluster 2 flags]).length = row.length :=
      length_write started
    have behind : column + 1 < (row.write column [.leader cluster 2 flags]).length := by omega
    have next : sum? short column 1 = some (column + 1) := sum?_of_lt (by omega)
    have joined := @write_write row column [.leader cluster 2 flags] started [.continuation flags]
    rw [double]
    simp only [Option.bind_eq_bind, Option.bind_some]
    rw [show List.range' 1 (2 - 1) = [1] from rfl, continue?, next]
    simp only [Option.bind_eq_bind, Option.bind_some]
    rw [set?, if_pos (by omega), if_pos behind, set_eq_write behind]
    exact congrArg some joined

/-- Clusters are written as they are without overflows. -/
theorem putClusters?_eq {row : Row} (word : row.length < short) {column : Nat}
    (inside : column ≤ row.length) (flags : Flags) (clusters : List Text) :
    putClusters? row.length flags row column clusters = row.putClusters column flags clusters := by
  have last : row.length < 65536 := word
  induction clusters generalizing row column with
  | nil =>
      simp [putClusters?, putClusters, fill, write]
  | cons cluster rest inductionHypothesis =>
      rw [putClusters?, putClusters, fill]
      by_cases refused : row.length < min (column + cluster.drawnWidth) 65535
      · simp [refused, write]
      rw [if_neg refused, if_neg refused]
      by_cases fits : column + cluster.drawnWidth < 65536
      · have covered : (cover cluster cluster.drawnWidth flags).length = cluster.drawnWidth :=
          length_cover cluster.drawnWidth_pos
        have room : column + cluster.drawnWidth ≤ row.length := by omega
        have next : sum? short column cluster.drawnWidth = some (column + cluster.drawnWidth) :=
          sum?_of_lt fits
        have wide : (row.write column (cover cluster cluster.drawnWidth flags)).length =
            row.length := length_write (by omega)
        have further := @inductionHypothesis (row.write column (cover cluster _ flags))
          (wide ▸ word) (column + cluster.drawnWidth) (by omega) (wide ▸ last)
        rw [wide] at further
        rw [cover?_eq word room, if_pos fits]
        simp only [Option.bind_eq_bind, Option.bind_some, next]
        rw [further, putClusters, wide]
        cases fill row.length flags (column + cluster.drawnWidth) rest with
        | none => rfl
        | some behind =>
            have joined := @write_write row column (cover cluster cluster.drawnWidth flags)
              (by omega) behind.1
            rw [covered] at joined
            simp only [Option.bind_eq_bind, Option.bind_some, joined]
      · have overflow : sum? short column cluster.drawnWidth = none :=
          sum?_of_le (Nat.le_of_not_lt fits)
        rw [if_neg fits]
        cases cover? row row.length flags column cluster with
        | none => rfl
        | some row => simp [overflow]

/-- The flags are added to the cells at the given steps behind a column. -/
def flag? (width : Nat) (flags : Flags) (column : Nat) (row : Row) : List Nat → Option Row
  | [] => some row
  | step :: rest => do
      let place ← sum? short column step
      if place < width then
        let cell ← row[place]?
        flag? width flags column (row.set place { cell with flags := cell.flags.union flags }) rest
      else flag? width flags column row rest

/-- The first cell of a span by itself, and then the others. -/
theorem addFlags_succ {row : Row} {column : Nat} (inside : column < row.length) (count : Nat)
    (flags : Flags) :
    row.addFlags column (count + 1) flags =
      addFlags (row.set column { row[column] with flags := row[column].flags.union flags })
        (column + 1) count flags := by
  apply List.ext_getElem?
  intro index
  rw [getElem?_addFlags, getElem?_addFlags, List.getElem?_set]
  by_cases same : column = index
  · subst same
    have covered : column ≤ column ∧ column < column + (count + 1) := by omega
    have before : ¬ (column + 1 ≤ column ∧ column < column + 1 + count) := by omega
    simp only [inside, if_true, List.getElem?_eq_getElem, Option.map_some, if_pos covered,
      if_neg before]
  · have alike : (column ≤ index ∧ index < column + (count + 1)) ↔
        (column + 1 ≤ index ∧ index < column + 1 + count) := by omega
    simp only [if_neg same, alike]

theorem addFlags_zero (row : Row) (column : Nat) (flags : Flags) :
    row.addFlags column 0 flags = row := by
  apply List.ext_getElem?
  intro index
  have none : ¬ (column ≤ index ∧ index < column + 0) := by omega
  simp only [getElem?_addFlags, if_neg none, Option.map_id_fun', id]

theorem flag?_range' {row : Row} (word : row.length < short) {column start count : Nat}
    (inside : column + start + count ≤ row.length) (flags : Flags) :
    flag? row.length flags column row (List.range' start count) =
      some (row.addFlags (column + start) count flags) := by
  induction count generalizing row start with
  | zero => rw [List.range'_zero, flag?, addFlags_zero]
  | succ count inductionHypothesis =>
      have place : column + start < row.length := by omega
      have counted : sum? short column start = some (column + start) :=
        sum?_of_lt (Nat.lt_trans place word)
      have further := @inductionHypothesis (row.set (column + start)
        { row[column + start] with flags := row[column + start].flags.union flags })
        (by rwa [List.length_set]) (start + 1) (by rw [List.length_set]; omega)
      rw [List.length_set] at further
      simp only [List.range'_succ, flag?, counted, Option.bind_eq_bind, Option.bind_some,
        if_pos place, List.getElem?_eq_getElem place, further]
      rw [addFlags_succ place]
      rfl

/-- The span is cut at the right edge. -/
theorem addFlags_min (row : Row) (column span : Nat) (flags : Flags) :
    row.addFlags column (min span (row.length - column)) flags =
      row.addFlags column span flags := by
  apply List.ext_getElem?
  intro index
  rw [getElem?_addFlags, getElem?_addFlags]
  by_cases inside : index < row.length
  · have alike : (column ≤ index ∧ index < column + min span (row.length - column)) ↔
        (column ≤ index ∧ index < column + span) := by omega
    simp only [alike]
  · rw [List.getElem?_eq_none (Nat.le_of_not_lt inside)]
    rfl

theorem flag?_eq_addFlags {row : Row} (word : row.length < short) (column span : Nat)
    (flags : Flags) :
    flag? row.length flags column row (List.range (min span (row.length - column))) =
      some (row.addFlags column span flags) := by
  by_cases inside : column ≤ row.length
  · rw [List.range_eq_range', flag?_range' word (by omega), Nat.add_zero, addFlags_min]
  · rw [Nat.sub_eq_zero_of_le (by omega), Nat.min_zero, List.range_zero, flag?,
      ← addFlags_min, Nat.sub_eq_zero_of_le (by omega), Nat.min_zero, addFlags_zero]

end Row

namespace Frame

open Checked

/-- The cells of all rows are numbered one after the other, and the numbers have to be words. -/
def row? (frame : Frame) (y : Nat) : Option Row := do
  let start ← product? long y frame.width
  let _ ← sum? long start frame.width
  frame.rows[y]?

def put? (frame : Frame) (x y : Nat) (text : Text) (flags : Flags) : Option (Frame × Nat) :=
  if y < frame.height then do
    let row ← frame.row? y
    let (row, column) ← row.putClusters? frame.width flags x text.clusters
    some (frame.setRow y row, column)
  else some (frame, x)

def addFlags? (frame : Frame) (x y span : Nat) (flags : Flags) : Option Frame :=
  if y < frame.height then do
    let row ← frame.row? y
    let row ← row.flag? frame.width flags x (List.range (min span (frame.width - x)))
    some (frame.setRow y row)
  else some frame

theorem row?_eq {frame : Frame} {y : Nat} (inside : y < frame.height) (low : y < short)
    (word : frame.width < short) : frame.row? y = some (frame.row y) := by
  have above : y * frame.width ≤ 65535 * 65535 :=
    Nat.mul_le_mul (Nat.le_of_lt_succ low) (Nat.le_of_lt_succ word)
  have narrow : frame.width < 65536 := word
  have place : y < frame.rows.length := inside
  rw [row?, product?_of_lt (Nat.lt_of_le_of_lt above (by decide)), Option.bind_eq_bind,
    Option.bind_some, sum?_of_lt (by simp only [long]; omega), Option.bind_some, row,
    List.getD_eq_getElem?_getD, List.getElem?_eq_getElem place, Option.getD_some]

/-- All rows are as long as the frame is wide. -/
structure Grid (frame : Frame) (width height : Nat) : Prop where
  width_eq : frame.width = width
  height_eq : frame.height = height
  long : ∀ row ∈ frame.rows, row.length = width

theorem grid_blank (width height : Nat) : (blank width height).Grid width height where
  width_eq := rfl
  height_eq := List.length_replicate
  long row member := by rw [List.eq_of_mem_replicate member, Row.length_blank]

section Grid

variable {frame : Frame} {width height y : Nat} (grid : frame.Grid width height)

include grid

theorem Grid.length_row (inside : y < frame.height) : (frame.row y).length = width := by
  have place : y < frame.rows.length := inside
  rw [row, List.getD_eq_getElem?_getD, List.getElem?_eq_getElem place]
  exact grid.long _ (List.getElem_mem place)

theorem Grid.setRow {row : Row} (full : row.length = width) (y : Nat) :
    (frame.setRow y row).Grid width height where
  width_eq := grid.width_eq
  height_eq := (height_setRow ..).trans grid.height_eq
  long other member := by
    rcases List.mem_or_eq_of_mem_set member with kept | rfl
    · exact grid.long other kept
    · exact full

/-- A text leaves the size of the frame as it is, and the column behind it is no column beyond the
right edge. -/
theorem Grid.put {after : Frame} {x next : Nat} (word : width < short) (inside : x ≤ width)
    {text : Text} {flags : Flags} (written : frame.put x y text flags = some (after, next)) :
    after.Grid width height ∧ next ≤ width := by
  unfold Frame.put at written
  split at written
  next below =>
    have full := grid.length_row below
    obtain ⟨⟨row, stop⟩, put, same⟩ := Option.bind_eq_some_iff.1 written
    obtain ⟨rfl, rfl⟩ := Prod.mk.inj (Option.some.inj same)
    obtain ⟨⟨cells, column⟩, filled, put⟩ := Option.bind_eq_some_iff.1 put
    rw [full, Row.fill_eq (Nat.le_of_lt_succ word) inside rfl,
      Option.ite_none_right_eq_some] at filled
    obtain ⟨-, filled⟩ := filled
    obtain ⟨rfl, rfl⟩ := Prod.mk.inj (Option.some.inj filled)
    obtain ⟨rfl, rfl⟩ := Prod.mk.inj (Option.some.inj put)
    have narrow := Drawing.total_fitting_le (width - x)
      (text.clusters.map fun cluster => (cluster, flags))
    refine ⟨grid.setRow ?_ y, by omega⟩
    rw [Row.length_write (by rw [Drawing.length_cells, full]; omega), full]
  next =>
    obtain ⟨rfl, rfl⟩ := Prod.mk.inj (Option.some.inj written)
    exact ⟨grid, inside⟩

theorem Grid.addFlags (x span : Nat) (flags : Flags) :
    (frame.addFlags x y span flags).Grid width height := by
  by_cases below : y < frame.height
  · have flagged := Frame.addFlags_setRow below (frame.row y) x span flags
    rw [setRow_row] at flagged
    rw [flagged]
    exact grid.setRow ((Row.length_addFlags ..).trans (grid.length_row below)) y
  · rw [Frame.addFlags, List.modify_eq_self (Nat.le_of_not_lt below)]
    exact grid

/-- A text is written as it is without overflows. -/
theorem Grid.put?_eq (word : width < short) (low : y < short) {x : Nat} (inside : x ≤ width)
    (text : Text) (flags : Flags) : frame.put? x y text flags = frame.put x y text flags := by
  rw [put?, Frame.put]
  split
  next below =>
    have full := grid.length_row below
    have written := Row.putClusters?_eq (full ▸ word) (full ▸ inside) flags text.clusters
    rw [full, ← grid.width_eq] at written
    rw [row?_eq below low (grid.width_eq ▸ word), Option.bind_eq_bind, Option.bind_some, written]
    rfl
  next => rfl

theorem Grid.addFlags?_eq (word : width < short) (low : y < short) (x span : Nat)
    (flags : Flags) :
    frame.addFlags? x y span flags = some (frame.addFlags x y span flags) := by
  rw [addFlags?]
  split
  next below =>
    have full := grid.length_row below
    have lit := Row.flag?_eq_addFlags (full ▸ word) x span flags
    have flagged := Frame.addFlags_setRow below (frame.row y) x span flags
    rw [full, ← grid.width_eq] at lit
    rw [setRow_row] at flagged
    rw [row?_eq below low (grid.width_eq ▸ word), Option.bind_eq_bind, Option.bind_some, lit,
      flagged]
    rfl
  next beyond =>
    rw [Frame.addFlags, List.modify_eq_self (Nat.le_of_not_lt beyond)]

end Grid

end Frame

namespace Compose

open Checked

def putAll? (frame : Frame) (x y : Nat) : Drawing → Option Frame
  | [] => some frame
  | (cluster, flags) :: rest => do
      let (frame, next) ← frame.put? x y cluster flags
      if next = x then some frame else putAll? frame next y rest

/-- The columns that are skipped are counted up to those that are scrolled away. -/
def putScrolled? (frame : Frame) (y columns skipped x : Nat) : Drawing → Option Frame
  | [] => some frame
  | (cluster, flags) :: rest =>
      if skipped < columns then do
        let skipped ← sum? long skipped cluster.drawnWidth
        putScrolled? frame y columns skipped x rest
      else do
        let (frame, next) ← frame.put? x y cluster flags
        if next = x then some frame else putScrolled? frame y columns skipped next rest

section Grid

variable {frame : Frame} {width height y : Nat} (grid : frame.Grid width height)
  (word : width < short)

include grid word

/-- Clusters leave the size of the frame as it is. -/
theorem grid_of_putAll {after : Frame} {x : Nat} (inside : x ≤ width) {drawing : Drawing}
    (drawn : putAll frame x y drawing = some after) : after.Grid width height := by
  induction drawing generalizing frame x with
  | nil =>
      obtain rfl := Option.some.inj drawn
      exact grid
  | cons first rest inductionHypothesis =>
      obtain ⟨⟨written, next⟩, put, others⟩ := Option.bind_eq_some_iff.1 drawn
      obtain ⟨kept, further⟩ := grid.put word inside put
      simp only at others
      split at others
      · obtain rfl := Option.some.inj others
        exact kept
      · exact inductionHypothesis kept further others

theorem putAll?_eq (low : y < short) {x : Nat} (inside : x ≤ width) (drawing : Drawing) :
    putAll? frame x y drawing = putAll frame x y drawing := by
  induction drawing generalizing frame x with
  | nil => rfl
  | cons first rest inductionHypothesis =>
      rw [putAll?, putAll, grid.put?_eq word low inside]
      apply Option.bind_congr
      rintro ⟨after, next⟩ put
      obtain ⟨kept, further⟩ := grid.put word inside put
      simp only [inductionHypothesis kept further]

/-- The columns that are skipped are those that are scrolled away. -/
theorem putScrolled?_eq (low : y < short) {columns : Nat} (small : columns + 2 < long) {x : Nat}
    (inside : x ≤ width) (skipped : Nat) (drawing : Drawing) :
    putScrolled? frame y columns skipped x drawing =
      putAll frame x y (scroll (columns - skipped) drawing) := by
  induction drawing generalizing frame skipped x with
  | nil => rfl
  | cons drawn rest inductionHypothesis =>
      obtain ⟨cluster, flags⟩ := drawn
      have narrow := cluster.drawnWidth_le
      rw [putScrolled?, scroll]
      by_cases away : skipped < columns
      · have counted : sum? long skipped cluster.drawnWidth = some (skipped + cluster.drawnWidth) :=
          sum?_of_lt (by omega)
        rw [if_pos away, if_neg (by omega), counted, Nat.sub_sub]
        exact inductionHypothesis grid inside _
      · have settled : scroll (columns - skipped) rest = rest := by
          rw [Nat.sub_eq_zero_of_le (Nat.le_of_not_lt away), scroll_zero]
        rw [if_neg away, if_pos (by omega), putAll, grid.put?_eq word low inside]
        apply Option.bind_congr
        rintro ⟨after, next⟩ put
        obtain ⟨kept, further⟩ := grid.put word inside put
        simp only [inductionHypothesis kept further, settled]

end Grid

def drawRows? {α : Type} (draw? : Frame → Nat → α → Option Frame) (frame : Frame)
    (top place : Nat) : List α → Option Frame
  | [] => some frame
  | row :: rest => do
      let y ← sum? short top (screenWord place)
      let frame ← draw? frame y row
      drawRows? draw? frame top (place + 1) rest

def drawBoxRow? (frame : Frame) (y : Nat) (row : BoxRow) : Option Frame := do
  let (frame, _) ← frame.put? 0 y row.text row.flags
  match row.highlight? with
  | some (x, width) => frame.addFlags? x y width .reversed
  | none => some frame

def drawSearchRow? (frame : Frame) (y : Nat) (row : SearchRow) : Option Frame :=
  putAll? frame 0 y (row.command.clusters.mapIdx fun index cluster =>
    (cluster, searchFlags row index))

/-- A row is drawn as it is without overflows, and the size of the frame stays. -/
structure Agrees {α : Type} (draw? draw : Frame → Nat → α → Option Frame) (width height : Nat) :
    Prop where
  same : ∀ {frame : Frame} {y : Nat}, frame.Grid width height → y < short → ∀ row,
    draw? frame y row = draw frame y row
  keeps : ∀ {frame after : Frame} {y : Nat} {row : α}, frame.Grid width height →
    draw frame y row = some after → after.Grid width height

theorem agrees_drawBoxRow {width : Nat} (word : width < short) (height : Nat) :
    Agrees drawBoxRow? drawBoxRow width height where
  same grid low row := by
    rw [drawBoxRow?, drawBoxRow, grid.put?_eq word low (Nat.zero_le width)]
    apply Option.bind_congr
    intro written put
    have kept := (grid.put word (Nat.zero_le width) put).1
    cases row.highlight? with
    | none => rfl
    | some span => exact kept.addFlags?_eq word low ..
  keeps grid drawn := by
    obtain ⟨written, put, lit⟩ := Option.bind_eq_some_iff.1 drawn
    have kept := (grid.put word (Nat.zero_le width) put).1
    simp only at lit
    split at lit
    · obtain rfl := Option.some.inj lit
      exact kept.addFlags ..
    · obtain rfl := Option.some.inj lit
      exact kept

theorem agrees_drawSearchRow {width : Nat} (word : width < short) (height : Nat) :
    Agrees drawSearchRow? drawSearchRow width height where
  same grid low _ := putAll?_eq grid word low (Nat.zero_le width) _
  keeps grid drawn := grid_of_putAll grid word (Nat.zero_le width) drawn

/-- Rows are drawn below each other as they are without overflows. -/
theorem drawRows?_eq {α : Type} {draw? draw : Frame → Nat → α → Option Frame} {width height : Nat}
    (agrees : Agrees draw? draw width height) {frame : Frame} (grid : frame.Grid width height)
    (top : Nat) {place : Nat} {rows : List α} (word : top + place + rows.length ≤ 65536) :
    drawRows? draw? frame top place rows = drawRows draw frame (top + place) rows := by
  induction rows generalizing frame place with
  | nil => rfl
  | cons row rest inductionHypothesis =>
      rw [List.length_cons] at word
      have counted : sum? short top (screenWord place) = some (top + place) := by
        rw [screenWord, Nat.mod_eq_of_lt (by omega), sum?_of_lt (by simp only [short]; omega)]
      rw [drawRows?, drawRows, counted, Option.bind_eq_bind, Option.bind_some,
        agrees.same grid (by simp only [short]; omega)]
      apply Option.bind_congr
      intro after drawn
      exact inductionHypothesis (agrees.keeps grid drawn) (by omega)

end Compose

end Promptline
