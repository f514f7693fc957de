/-
This file defines lookups in ascending tables of code point ranges.
-/

namespace Promptline

/-- A range holds its first and its last code point. -/
abbrev CodeRange := Nat × Nat

namespace CodeRange

/-- Some range of the ascending table holds the code point. -/
def anyContains : List CodeRange → Nat → Bool
  | [], _ => false
  | (first, last) :: rest, n => first ≤ n && (n ≤ last || anyContains rest n)

/-- The value belongs to the range of the ascending table that holds the code point. -/
def lookup? {A : Type} : List (Nat × Nat × A) → Nat → Option A
  | [], _ => none
  | (first, last, value) :: rest, n =>
      if n < first then none else if n ≤ last then some value else lookup? rest n

end CodeRange

end Promptline
