/-
This file defines the commands that bring a frame to the terminal, and their control sequences. All
positions are relative to the prompt row, on which the cursor is before and after.
-/

import Promptline.Screen.Compose

namespace Promptline

inductive PaintCommand where
  | column (x : Nat)
  | up (rows : Nat)
  | clearLine
  | clearBelow
  | newLine
  | attributes (flags : Flags)
  | plain
  | print (text : Text)
  deriving DecidableEq, Repr

namespace Paint

/-- An empty text needs no command. -/
def print (text : Text) : List PaintCommand := if text = [] then [] else [.print text]

/-- The attributes are set anew where the flags change. -/
def change (before after : Flags) : List PaintCommand :=
  if before = after then []
  else .plain :: if after = .none then [] else [.attributes after]

/-- The runs behind a place with the given flags. Blanks without flags are left out at the end. -/
def runs (before : Flags) : List Run → List PaintCommand
  | [] => change before .none
  | [last] =>
      change before last.flags ++
        print (if last.flags = .none then last.text.trimEnd else last.text) ++
        change last.flags .none
  | run :: rest => change before run.flags ++ print run.text ++ runs run.flags rest

def row (row : Row) : List PaintCommand := runs .none row.runs

/-- Every row is cleared before it is written. -/
def rows : List Row → List PaintCommand
  | [] => []
  | [last] => .clearLine :: row last
  | first :: rest => .clearLine :: row first ++ .newLine :: rows rest

/-- The frame takes the place of whatever was there before. -/
def frame (composed : Composed) : List PaintCommand :=
  let height := composed.frame.height
  .column 0 :: rows composed.frame.rows ++ [.clearBelow] ++
    (if 1 < height then [.up (height - 1)] else []) ++ [.column composed.cursor]

/-- Only the first row stays, and the cursor goes to the row below it. -/
def finishLine (composed : Composed) : List PaintCommand :=
  frame { composed with frame := { composed.frame with rows := composed.frame.rows.take 1 } } ++
    [.newLine, .column 0]

end Paint

namespace Sequence

/-- A control sequence starts with an escape character and a bracket. -/
def control (tail : String) : Text := '\x1b' :: '[' :: Text.of tail

def counted (n : Nat) (final : Char) : Text := '\x1b' :: '[' :: Text.ofNat n ++ [final]

/-- Each attribute has a sequence of its own. -/
def attributes (flags : Flags) : Text :=
  (if flags.reverse then control "7m" else []) ++ (if flags.dim then control "2m" else []) ++
    (if flags.bold then control "1m" else []) ++ (if flags.underline then control "4m" else [])

def bracketedPaste : Text := control "?2004h"

def plainPaste : Text := control "?2004l"

/-- The whole screen is cleared and the cursor goes to its first cell. -/
def clearScreen : Text := control "2J" ++ control "1;1H"

def ofCommand : PaintCommand → Text
  | .column x => counted (x + 1) 'G'
  | .up rows => counted rows 'A'
  | .clearLine => control "2K"
  | .clearBelow => control "J"
  | .newLine => ['\r', '\n']
  | .attributes flags => attributes flags
  | .plain => control "0m"
  | .print text => text

def ofCommands (commands : List PaintCommand) : Text := commands.flatMap ofCommand

end Sequence

end Promptline
