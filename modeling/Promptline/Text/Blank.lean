/-
This file defines white space and control characters, and the cuts at white space.
-/

import Promptline.Text.Basic

namespace Promptline

/-- White space is the Unicode property `White_Space`. -/
def isBlank (c : Char) : Bool :=
  let n := c.val
  (9 ≤ n && n ≤ 13) || n = 0x20 || n = 0x85 || n = 0xA0 || n = 0x1680 ||
    (0x2000 ≤ n && n ≤ 0x200A) || n = 0x2028 || n = 0x2029 || n = 0x202F || n = 0x205F ||
    n = 0x3000

/-- Control characters are the Unicode category `Cc`. -/
def isControl (c : Char) : Bool :=
  c.val ≤ 0x1F || (0x7F ≤ c.val && c.val ≤ 0x9F)

namespace Text

/-- Leading white space is dropped. -/
def trimStart (text : Text) : Text := text.dropWhile isBlank

/-- Trailing white space is dropped. -/
def trimEnd (text : Text) : Text := (text.reverse.dropWhile isBlank).reverse

/-- White space on both sides is dropped. -/
def trim (text : Text) : Text := text.trimStart.trimEnd

/-- The words are the longest runs without white space. -/
def words (text : Text) : List Text := (pieces isBlank text).filter fun piece => !piece.isEmpty

/-- The text is empty or ends with white space. -/
def endsBlank (text : Text) : Bool := text.getLast?.all isBlank

end Text

end Promptline
