/-
This file arranges candidates in a box with words that overflow. As long as the candidates fit into
the memory, no step of the arrangement fails.
-/

import Promptline.Proofs.Screen.Checked.Text
import Promptline.Proofs.Screen.Paging

namespace Promptline

namespace Candidate

/-- The characters that the box shows of a candidate. -/
def weight (candidate : Candidate) : Nat :=
  candidate.label.length + (candidate.description?.getD []).length

end Candidate

namespace CompletionBox

open Checked

def widestFrom? (widest : Nat) : List Candidate → Option Nat
  | [] => some widest
  | candidate :: rest => do
      let width ← candidate.label.width?
      widestFrom? (max widest width) rest

def itemWidthOf? (candidates : List Candidate) (width minimum : Nat) : Option Nat := do
  let widest ← widestFrom? 0 candidates
  let padded ← sum? long widest 1
  some (screenWord (max (min (max padded minimum) width) 1))

def columnsOf? (candidates : List Candidate) (width height itemWidth : Nat) : Option Nat :=
  if candidates.any Candidate.hasDescription || candidates.length ≤ height then some 1
  else do
    let columns ← quotient? width itemWidth
    some (max columns 1)

/-- The last candidate is selected in place of one behind it. -/
def pageOf? (total size : Nat) : Option Nat → Option Nat
  | none => some 0
  | some selected => do
      let last ← difference? total 1
      quotient? (min selected last) size

/-- A last page that is not full counts. -/
def pageCount? (total size : Nat) : Option Nat := do
  let full ← quotient? total size
  let beyond ← remainder? total size
  if 0 < beyond then sum? long full 1 else some full

/-- The cells of the candidates with the given indices. -/
def cellsFrom? (candidates : List Candidate) (height first : Nat) (selected? : Option Nat) :
    List Nat → Option (List BoxCell)
  | [] => some []
  | index :: rest => do
      let place ← difference? index first
      let candidate ← candidates[index]?
      let column ← quotient? place height
      let row ← remainder? place height
      let cells ← cellsFrom? candidates height first selected? rest
      some ({
        index
        column := screenWord column
        row := screenWord row
        label := candidate.label
        description? := candidate.description?.bind Candidate.presence
        selected := selected? = some index } :: cells)

def arrange? (candidates : List Candidate) (selected? : Option Nat) (width height minimum : Nat) :
    Option CompletionBox :=
  if candidates = [] ∨ width = 0 ∨ height = 0 then some empty
  else do
    let itemWidth ← itemWidthOf? candidates width minimum
    let columns ← columnsOf? candidates width height itemWidth
    let size ← product? long height columns
    let page ← pageOf? candidates.length size selected?
    let pageCount ← pageCount? candidates.length size
    let first ← product? long page size
    let reach ← sum? long first size
    let last := min reach candidates.length
    let cells ← cellsFrom? candidates height first selected? (List.range' first (last - first))
    let count ← difference? last first
    some { itemWidth, columns, rows := screenWord (min count height), page, pageCount, cells }

theorem widestFrom?_eq {candidates : List Candidate}
    (inside : ∀ candidate ∈ candidates, 2 * candidate.label.length < long) (widest : Nat) :
    widestFrom? widest candidates =
      some (candidates.foldl (fun widest candidate => max widest candidate.label.width)
        widest) := by
  induction candidates generalizing widest with
  | nil => rfl
  | cons candidate rest inductionHypothesis =>
      obtain ⟨first, others⟩ := List.forall_mem_cons.1 inside
      rw [widestFrom?, Text.width?_of_lt first]
      exact inductionHypothesis others _

/-- No label is wider than twice the longest one. -/
theorem foldl_max_le {candidates : List Candidate} {bound widest : Nat} (start : widest ≤ bound)
    (inside : ∀ candidate ∈ candidates, 2 * candidate.label.length ≤ bound) :
    candidates.foldl (fun widest candidate => max widest candidate.label.width) widest ≤ bound := by
  refine List.foldlRecOn (motive := fun widest => widest ≤ bound) _ _ start ?_
  intro widest reached candidate member
  exact Nat.max_le.2 ⟨reached, Nat.le_trans candidate.label.width_le (inside candidate member)⟩

theorem itemWidthOf?_eq {candidates : List Candidate} {bound : Nat} (small : bound + 1 < long)
    (inside : ∀ candidate ∈ candidates, 2 * candidate.label.length ≤ bound)
    (width minimum : Nat) :
    itemWidthOf? candidates width minimum = some (itemWidthOf candidates width minimum) := by
  have narrow := foldl_max_le (Nat.zero_le bound) inside
  have found := widestFrom?_eq (fun candidate member =>
    Nat.lt_of_le_of_lt (inside candidate member) (Nat.lt_of_succ_lt small)) 0
  simp only [itemWidthOf?, found, Option.bind_eq_bind, Option.bind_some]
  rw [sum?_of_lt (by omega)]
  rfl

theorem columnsOf?_eq (candidates : List Candidate) (width height : Nat) {itemWidth : Nat}
    (positive : 0 < itemWidth) :
    columnsOf? candidates width height itemWidth =
      some (columnsOf candidates width height itemWidth) := by
  rw [columnsOf?, columnsOf, quotient?_of_pos positive]
  split <;> rfl

theorem pageCount?_eq {total size : Nat} (positive : 0 < size) (filled : 0 < total)
    (inside : total + 1 < long) : pageCount? total size = some ((total + size - 1) / size) := by
  have parts := Nat.div_add_mod total size
  have less := Nat.div_le_self total size
  have below := Nat.mod_lt total positive
  rw [pageCount?, quotient?_of_pos positive, remainder?_of_pos positive]
  simp only [Option.bind_eq_bind, Option.bind_some]
  by_cases beyond : 0 < total % size
  · have rounded : total + size - 1 = total % size - 1 + size * (total / size + 1) := by
      rw [Nat.mul_succ]
      omega
    have rest : (total % size - 1) / size = 0 := Nat.div_eq_of_lt (by omega)
    rw [if_pos beyond, sum?_of_lt (by omega), rounded, Nat.add_mul_div_left _ _ positive, rest,
      Nat.zero_add]
  · have exact : total + size - 1 = size - 1 + size * (total / size) := by omega
    have rest : (size - 1) / size = 0 := Nat.div_eq_of_lt (by omega)
    rw [if_neg beyond, exact, Nat.add_mul_div_left _ _ positive, rest, Nat.zero_add]

/-- Consecutive candidates stand at consecutive places. -/
theorem cellsFrom?_range' {candidates : List Candidate} {height : Nat} (high : 0 < height)
    (selected? : Option Nat) {first place count : Nat}
    (inside : first + place + count ≤ candidates.length) :
    cellsFrom? candidates height first selected? (List.range' (first + place) count) =
      some (((candidates.drop (first + place)).take count).mapIdx fun step candidate =>
        cellOf height selected? (first + (place + step)) (place + step) candidate) := by
  induction count generalizing place with
  | zero => rfl
  | succ count inductionHypothesis =>
      have there : first + place < candidates.length := by omega
      have further := @inductionHypothesis (place + 1) (by omega)
      rw [← Nat.add_assoc first place 1] at further
      simp only [List.range'_succ, cellsFrom?, difference?_of_le (Nat.le_add_right first place),
        List.getElem?_eq_getElem there, quotient?_of_pos high, remainder?_of_pos high, further,
        Option.bind_eq_bind, Option.bind_some, Nat.add_sub_cancel_left,
        List.drop_eq_getElem_cons there, List.take_succ_cons, List.mapIdx_cons, Nat.add_zero]
      simp only [cellOf, Nat.add_assoc, Nat.add_comm 1]

theorem pageOf?_eq {total size : Nat} (filled : 0 < total) (positive : 0 < size)
    (selected? : Option Nat) :
    pageOf? total size selected? = some (pageOf total size selected?) := by
  cases selected? with
  | none => rfl
  | some selected =>
      rw [pageOf?, difference?_of_le filled]
      exact quotient?_of_pos positive

/-- A page has no more cells than the largest screen. -/
theorem pageSize_le {width height : Nat} (columns : width < short) (rows : height < short)
    (candidates : List Candidate) (itemWidth : Nat) :
    height * columnsOf candidates width height itemWidth ≤ 65535 * 65535 := by
  have narrow := columnsOf_le candidates width height itemWidth
  exact Nat.mul_le_mul (Nat.le_of_lt_succ rows) (by simp only [short] at columns; omega)

/-- The last page ends with the last candidate. -/
theorem take_page (candidates : List Candidate) (first size : Nat) :
    (candidates.drop first).take (min (first + size) candidates.length - first) =
        (candidates.drop first).take size ∧
      ((candidates.drop first).take size).length =
        min (first + size) candidates.length - first := by
  constructor
  · rw [List.take_eq_take_iff, List.length_drop]
    omega
  · rw [List.length_take, List.length_drop]
    omega

/-- As long as the candidates fit into the memory, they are arranged as they are without
overflows. -/
theorem arrange?_eq {candidates : List Candidate} {width height : Nat} (columns : width < short)
    (rows : height < short) (few : candidates.length ≤ memory)
    (light : ∀ candidate ∈ candidates, candidate.label.length ≤ memory) (selected? : Option Nat)
    (minimum : Nat) :
    arrange? candidates selected? width height minimum =
      some (arrange candidates selected? width height minimum) := by
  by_cases empty : candidates = [] ∨ width = 0 ∨ height = 0
  · rw [arrange?, arrange, if_pos empty, if_pos empty]
  · rw [not_or, not_or] at empty
    obtain ⟨filled, room, high⟩ := empty
    have room := Nat.pos_of_ne_zero room
    have high := Nat.pos_of_ne_zero high
    have total : 0 < candidates.length := List.length_pos_iff.2 filled
    have labels := @itemWidthOf?_eq candidates (2 * memory) (by decide)
      (fun candidate member => Nat.mul_le_mul_left 2 (light candidate member)) width minimum
    have apart := (itemWidthOf_bounds candidates minimum room (Nat.le_of_lt_succ columns)).1
    rw [arrange_of_room filled room high, arrange?, if_neg (by simp only [filled, false_or]; omega)]
    simp only [labels, columnsOf?_eq candidates width height apart, Option.bind_eq_bind,
      Option.bind_some]
    have several := columnsOf_pos candidates width height (itemWidthOf candidates width minimum)
    have small := pageSize_le columns rows candidates (itemWidthOf candidates width minimum)
    generalize columnsOf candidates width height (itemWidthOf candidates width minimum) =
      columnCount at several small ⊢
    have positive : 0 < height * columnCount := Nat.mul_pos high several
    have sized : product? long height columnCount = some (height * columnCount) :=
      product?_of_lt (Nat.lt_of_le_of_lt small (by decide))
    generalize height * columnCount = size at positive small sized ⊢
    have standing := pageOf_mul_lt total size selected?
    simp only [memory] at few
    have counted := pageCount?_eq positive total (by simp only [long]; omega)
    have started : product? long (pageOf candidates.length size selected?) size =
        some (pageOf candidates.length size selected? * size) :=
      product?_of_lt (by simp only [long]; omega)
    simp only [sized, pageOf?_eq total positive, counted, started, Option.bind_some]
    generalize pageOf candidates.length size selected? * size = first at standing ⊢
    have reached : sum? long first size = some (first + size) :=
      sum?_of_lt (by simp only [long]; omega)
    have cells := @cellsFrom?_range' candidates height high selected? first 0
      (min (first + size) candidates.length - first) (by omega)
    obtain ⟨shown, length⟩ := take_page candidates first size
    simp only [Nat.add_zero, Nat.zero_add, shown] at cells
    simp only [reached, cells, Option.bind_some,
      difference?_of_le (show first ≤ min (first + size) candidates.length by omega), length]

end CompletionBox

end Promptline
