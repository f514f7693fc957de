/-
This file finds words and the blanks between them around an offset. A word is a longest run without
white space, and an offset past the end counts as the end.
-/

import Promptline.Text.Blank

namespace Promptline.Text

/-- What is left behind a run is no longer than the text. -/
theorem length_dropWhile_le (keeps : Char → Bool) (text : Text) :
    (text.dropWhile keeps).length ≤ text.length := (List.dropWhile_sublist keeps).length_le

/-- The start of the word before the offset, behind any blanks that stand in between. -/
def wordStartBefore (text : Text) (offset : Nat) : Nat :=
  (((text.take offset).reverse.dropWhile isBlank).dropWhile fun c => !isBlank c).length

theorem wordStartBefore_le (text : Text) (offset : Nat) : text.wordStartBefore offset ≤ offset := by
  have word := length_dropWhile_le (fun c => !isBlank c)
    ((text.take offset).reverse.dropWhile isBlank)
  have blanks := length_dropWhile_le isBlank (text.take offset).reverse
  simp only [List.length_reverse, List.length_take] at blanks
  exact Nat.le_trans word (Nat.le_trans blanks (Nat.min_le_left ..))

/-- The end of the word after the offset, behind any blanks that stand in between. -/
def wordEndAfter (text : Text) (offset : Nat) : Nat :=
  text.length - (((text.drop offset).dropWhile isBlank).dropWhile fun c => !isBlank c).length

theorem wordEndAfter_le_length (text : Text) (offset : Nat) :
    text.wordEndAfter offset ≤ text.length := Nat.sub_le ..

theorem le_wordEndAfter {text : Text} {offset : Nat} (within : offset ≤ text.length) :
    offset ≤ text.wordEndAfter offset := by
  have word := length_dropWhile_le (fun c => !isBlank c) ((text.drop offset).dropWhile isBlank)
  have blanks := length_dropWhile_le isBlank (text.drop offset)
  simp only [List.length_drop] at blanks
  simp only [wordEndAfter]
  omega

/-- The start of the run without blanks that ends at the offset. -/
def tokenStart (text : Text) (offset : Nat) : Nat :=
  ((text.take offset).reverse.dropWhile fun c => !isBlank c).length

theorem tokenStart_le (text : Text) (offset : Nat) : text.tokenStart offset ≤ offset := by
  have token := length_dropWhile_le (fun c => !isBlank c) (text.take offset).reverse
  simp only [List.length_reverse, List.length_take] at token
  exact Nat.le_trans token (Nat.min_le_left ..)

/-- The end of the run without blanks that starts at the offset. -/
def tokenEnd (text : Text) (offset : Nat) : Nat :=
  text.length - ((text.drop offset).dropWhile fun c => !isBlank c).length

theorem tokenEnd_le_length (text : Text) (offset : Nat) : text.tokenEnd offset ≤ text.length :=
  Nat.sub_le ..

theorem le_tokenEnd {text : Text} {offset : Nat} (within : offset ≤ text.length) :
    offset ≤ text.tokenEnd offset := by
  have token := length_dropWhile_le (fun c => !isBlank c) (text.drop offset)
  simp only [List.length_drop] at token
  simp only [tokenEnd]
  omega

/-- The start of the word before `start` when blanks alone stand between the two. -/
def precedingWordStart? (text : Text) (start : Nat) : Option Nat :=
  let before := (text.take start).reverse
  let word := before.dropWhile isBlank
  if before.length = word.length ∨ word = [] then none
  else some (word.dropWhile fun c => !isBlank c).length

theorem precedingWordStart?_le {text : Text} {start wider : Nat}
    (found : text.precedingWordStart? start = some wider) : wider ≤ start := by
  have word := length_dropWhile_le (fun c => !isBlank c)
    ((text.take start).reverse.dropWhile isBlank)
  have blanks := length_dropWhile_le isBlank (text.take start).reverse
  simp only [List.length_reverse, List.length_take] at blanks
  simp only [precedingWordStart?] at found
  split at found
  · simp at found
  · obtain rfl := Option.some.inj found
    omega

end Promptline.Text
