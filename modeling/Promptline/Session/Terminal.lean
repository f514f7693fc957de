/-
This file runs a session on a terminal: every event goes to the editor, and what the editor asks for
is carried out and drawn.
-/

import Promptline.Editor.Step
import Promptline.Screen.Paint
import Promptline.Session.Basic

namespace Promptline

structure TerminalSession where
  session : Session
  editor : Editor

namespace TerminalSession

/-- A new editor has the options and remembers the directory with every command. -/
def start (session : Session) (options : EditorOptions) (size : ScreenSize) (directory : Text) :
    TerminalSession where
  session
  editor := { (Editor.ofOptions options).resize size with directory }

def ofSettings (programs : Programs) (settings : Settings) (size : ScreenSize)
    (directory : Text) : TerminalSession :=
  start (.ofSettings programs settings.completion) settings.options size directory

/-- The terminal is in raw mode, so every line end needs a carriage return. -/
def rawLines (text : Text) : Text :=
  (Text.joinLineEnds text).flatMap fun c => if c = '\n' then ['\r', '\n'] else [c]

/-- The screen is drawn anew. -/
def repaint (state : TerminalSession) : Option Text := do
  let composed ← state.editor.compose
  some (Sequence.ofCommands (Paint.frame composed))

/-- The text stays behind the prompt, and the cursor goes to a fresh row. -/
def leaveLine (state : TerminalSession) (text : Text) : Option Text := do
  let (frame, column) ←
    (Frame.blank state.editor.size.columns 1).put 0 0 state.editor.options.prompt .none
  let (frame, _) ← frame.put column 0 text .none
  some (Sequence.ofCommands (Paint.finishLine ⟨frame, 0⟩))

/-- A submitted line is executed and then remembered. The answer is what it has printed, and the
state to go on with unless the line ends the session. -/
def submit (state : TerminalSession) (line : Text) : Text × Option TerminalSession :=
  match state.session.execute line state.editor.history with
  | (_, .exit) => ([], none)
  | (session, .output text) =>
      let editor :=
        if Session.remembers line then state.editor.pushHistory ⟨line, state.editor.directory⟩
        else state.editor
      (rawLines text, some ⟨session, editor⟩)

/-- What the effects of an event make of the session, whatever is drawn. -/
def settle (state : TerminalSession) (effects : Effects) : Text × Option TerminalSession :=
  if effects.ended then ([], none)
  else match effects.submitted? with
    | some line => state.submit line
    | none => ([], some state)

/-- The lines that the effects leave on the screen. -/
def leftLines (draft : Text) (effects : Effects) : List Text :=
  if effects.ended then [[]]
  else
    (if effects.interrupted then [draft ++ Text.of "^C"] else []) ++ effects.submitted?.toList

def leaveLines (state : TerminalSession) : List Text → Option Text
  | [] => some []
  | line :: rest => do
      let first ← state.leaveLine line
      let others ← leaveLines state rest
      some (first ++ others)

/-- The screen is cleared and drawn anew if the effects ask for it. -/
def refresh (state : TerminalSession) (effects : Effects) : Option Text :=
  let cleared := if effects.clears then Sequence.clearScreen else []
  if effects.dirty then state.repaint.map (cleared ++ ·) else some cleared

/-- What is written for the effects of an event, and the state to go on with. Lines are left on the
screen before anything is executed, and a drawing that fails stops the program. -/
def carryOut (state : TerminalSession) (draft : Text) (effects : Effects) :
    Option (Text × Option TerminalSession) := do
  let left ← state.leaveLines (leftLines draft effects)
  match state.settle effects with
  | (printed, none) => some (left ++ printed, none)
  | (printed, some next) => do
      let drawn ← next.refresh effects
      some (left ++ printed ++ drawn, some next)

/-- The source of the editor sees the registry as it is at the event. -/
def step (state : TerminalSession) (event : Event) : Option (Text × Option TerminalSession) :=
  let (editor, effects) := state.editor.apply state.session.source event
  carryOut { state with editor } state.editor.buffer.shown effects

/-- What is written for the events until the session ends. -/
def runEvents (state : TerminalSession) : List Event → Option Text
  | [] => some []
  | event :: rest => do
      match ← state.step event with
      | (written, none) => some written
      | (written, some next) =>
          let behind ← runEvents next rest
          some (written ++ behind)

/-- The terminal marks pasted text for as long as the session lasts. -/
def run (state : TerminalSession) (events : List Event) : Option Text := do
  let first ← state.repaint
  let written ← state.runEvents events
  some (Sequence.bracketedPaste ++ first ++ written ++ Sequence.plainPaste)

end TerminalSession

end Promptline
