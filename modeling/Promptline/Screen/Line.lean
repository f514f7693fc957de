/-
This file defines what the input line shows: the prompt, the text and a dim tail, which is either
the suggestion or the suffix of the selected candidate.
-/

import Promptline.Editor.Basic
import Promptline.Text.Width

namespace Promptline

structure LineView where
  prompt : Text
  text : Text
  /-- The column of the cursor, counted from the start of the text. -/
  cursorColumn : Nat
  ghost? : Option Text
  /-- The suffix stands behind the inserted candidate, at an offset into the text. -/
  suffix? : Option (Nat × Text)
  error? : Option Text
  deriving DecidableEq, Repr

namespace LineView

/-- The column of the cursor, counted from the start of the prompt. -/
def column (view : LineView) : Nat := view.prompt.width + view.cursorColumn

end LineView

namespace Editor

/-- The suffix of the selected candidate with the place where it stands. -/
def suffix? (editor : Editor) : Option (Nat × Text) := do
  let session ← editor.completion.session?
  let suffix ← session.suffix?
  if session.stop ≤ editor.buffer.length then some (session.stop, suffix) else none

/-- A suffix before the cursor moves it to the right. -/
def lineView (editor : Editor) : LineView :=
  let buffer := editor.buffer
  let suffix? := editor.suffix?
  let before := Text.width (buffer.shown.take buffer.cursor)
  let shift :=
    match suffix? with
    | some (offset, suffix) => if offset < buffer.cursor then suffix.width else 0
    | none => 0
  { prompt := editor.options.prompt, text := buffer.shown, cursorColumn := before + shift,
    ghost? := editor.ghost?, suffix?, error? := buffer.error? }

end Editor

end Promptline
