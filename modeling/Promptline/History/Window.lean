/-
This file places a window of fixed height over a list.
-/

namespace Promptline

/-- The window holds the positions from `start` up to `stop`. -/
structure Window where
  start : Nat
  stop : Nat
  deriving DecidableEq, Repr

namespace Window

/-- The selected position is in the middle, as far as the ends of the list allow. -/
def around (total selected height : Nat) : Window :=
  if height = 0 ∨ total = 0 then ⟨0, 0⟩
  else if total ≤ height then ⟨0, total⟩
  else
    let start := min (min selected (total - 1) - height / 2) (total - height)
    ⟨start, start + height⟩

theorem around_start_le_stop (total selected height : Nat) :
    (around total selected height).start ≤ (around total selected height).stop := by
  simp only [around]
  split
  · exact Nat.le_refl 0
  · split
    · exact Nat.zero_le total
    · exact Nat.le_add_right ..

theorem around_stop_le (total selected height : Nat) :
    (around total selected height).stop ≤ total := by
  simp only [around]
  split
  · exact Nat.zero_le total
  · split
    · exact Nat.le_refl total
    next short =>
      simp only
      omega

/-- The window is as high as it can be. -/
theorem around_size (total selected height : Nat) :
    (around total selected height).stop - (around total selected height).start =
      min total height := by
  simp only [around]
  split
  next nothing => rcases nothing with rfl | rfl <;> simp
  · split <;> simp only <;> omega

end Window

end Promptline
