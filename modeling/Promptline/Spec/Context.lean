/-
This file defines what a completion looks at: the words up to the cursor, the whole line and the
cursor.
-/

import Promptline.Text.Blank

namespace Promptline

/-- The first word is the command, and the last one is the word that is completed. -/
structure Context where
  words : List Text
  line : Text
  cursor : Nat
  deriving DecidableEq, Repr

namespace Context

/-- Behind white space, and at the start of the line, the completed word is empty. -/
def ofLine (line : Text) (cursor : Nat) : Context :=
  let before := line.take cursor
  ⟨Text.words before ++ (if Text.endsBlank before then [[]] else []), line, cursor⟩

/-- A word on its own stands behind an empty command. -/
def ofWord (word : Text) : Context := ⟨[[], word], word, word.length⟩

def command (context : Context) : Text := context.words.headD []

def word (context : Context) : Text := context.words.getLastD []

/-- The word before the completed one. -/
def previousWord (context : Context) : Text := context.words.dropLast.getLastD []

/-- The cursor is still in the command. -/
def inCommand (context : Context) : Bool := context.words.length ≤ 1

/-- A completer gets the command, the completed word and the word before it. -/
def arguments (context : Context) : List Text :=
  [context.command, context.word, context.previousWord]

/-- The half of the line before the cursor, and the half behind it, have variables of their own. A
cursor behind the end has no halves, and counts on from the last byte. -/
def environment (context : Context) : List (Text × Text) :=
  let length := context.line.length
  let point := context.line.byteOffset context.cursor + (context.cursor - length)
  [(Text.of "COMP_LINE", context.line), (Text.of "COMP_POINT", Text.ofNat point),
    (Text.of "COMP_KEY", Text.of "9"), (Text.of "COMP_TYPE", Text.of "9"),
    (Text.of "BUFFER", context.line), (Text.of "CURSOR", Text.ofNat context.cursor)] ++
  (if context.cursor ≤ length then
    [(Text.of "LBUFFER", context.line.slice 0 context.cursor)] else []) ++
  (if context.cursor < length then
    [(Text.of "RBUFFER", context.line.slice context.cursor length)] else [])

end Context

end Promptline
