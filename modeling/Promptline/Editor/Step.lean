/-
This file defines what the editor does with an event. Every action keeps the same books: it ends a
completion session that it does not drive, only a yank keeps the yanked span, and only a kill keeps
the chain of kills.
-/

import Promptline.Editor.Basic
import Promptline.Key.Binding
import Promptline.Text.SingleLine

namespace Promptline

inductive Event where
  | key (key : Key)
  | paste (text : Text)
  | resize (size : ScreenSize)
  deriving DecidableEq, Repr

/-- What the host has to do after an event. -/
structure Effects where
  dirty : Bool
  /-- The submitted line is no longer in the editor. -/
  submitted? : Option Text
  interrupted : Bool
  ended : Bool
  clears : Bool
  deriving DecidableEq, Repr

namespace Effects

def clean : Effects := ⟨false, none, false, false, false⟩

def redraw : Effects := { clean with dirty := true }

def redrawIf (changed : Bool) : Effects := { clean with dirty := changed }

def submit (line : Text) : Effects := { redraw with submitted? := some line }

def interrupt : Effects := { redraw with interrupted := true }

def endOfInput : Effects := { clean with ended := true }

def clearScreen : Effects := { redraw with clears := true }

end Effects

namespace Editor

def mode (editor : Editor) : InputMode := if editor.search.active then .search else .edit

/-- The screen is drawn again if the line has changed. -/
def withBuffer? (editor : Editor) (buffer? : Option LineBuffer) : Editor × Effects :=
  match buffer? with
  | none => (editor, .clean)
  | some buffer => ({ editor with buffer }, .redraw)

def moved? (buffer : LineBuffer) : Motion → Option LineBuffer
  | .left => buffer.moveLeft?
  | .right => buffer.moveRight?
  | .wordLeft => buffer.moveWordLeft?
  | .wordRight => buffer.moveWordRight?
  | .lineStart => buffer.moveToStart?
  | .lineEnd => buffer.moveToEnd?

/-- These motions take the suggestion when the cursor is at the end already. -/
def takesGhost : Motion → Bool
  | .right | .lineEnd => true
  | _ => false

def move (editor : Editor) (motion : Motion) : Editor × Effects :=
  let accepted? :=
    if editor.buffer.atEnd && takesGhost motion then editor.acceptGhost? else none
  match accepted? with
  | some accepted => (accepted, .redraw)
  | none => editor.withBuffer? (moved? editor.buffer motion)

def insert (editor : Editor) (text : Text) : Editor × Effects :=
  let (buffer, count) := editor.buffer.insert text
  ({ editor with buffer }, .redrawIf (0 < count))

def edit (editor : Editor) : Edit → Editor × Effects
  | .insert c => editor.insert [c]
  | .deleteBefore => editor.withBuffer? editor.buffer.deleteBefore?
  | .deleteAfter => editor.withBuffer? editor.buffer.deleteAfter?
  | .deleteOrEnd =>
      if editor.buffer.shown = [] then (editor, .endOfInput)
      else editor.withBuffer? editor.buffer.deleteAfter?

def killed? (buffer : LineBuffer) : Kill → Option (LineBuffer × Text)
  | .wordBefore => buffer.killWordBefore?
  | .wordAfter => buffer.killWordAfter?
  | .toLineStart => buffer.killToStart?
  | .toLineEnd => buffer.killToEnd?

def killDirection : Kill → KillDirection
  | .wordBefore | .toLineStart => .backward
  | .wordAfter | .toLineEnd => .forward

/-- The killed text goes into the ring. -/
def kill (editor : Editor) (kill : Kill) : Editor × Effects :=
  match killed? editor.buffer kill with
  | none => (editor, .clean)
  | some (buffer, text) =>
      ({ editor with buffer, ring := editor.ring.record (killDirection kill) text }, .redraw)

def yank (editor : Editor) : Editor × Effects :=
  match editor.ring.yank? with
  | none => (editor, .clean)
  | some (ring, text) =>
      let start := editor.buffer.cursor
      let (buffer, count) := editor.buffer.insert text
      ({ editor with buffer, ring := ring.setYanked start (start + count) }, .redraw)

def yankPop (editor : Editor) : Editor × Effects :=
  match editor.ring.yankPop? with
  | none => (editor, .clean)
  | some (ring, (start, stop), text) =>
      let (buffer, stop) := editor.buffer.replace start stop text
      ({ editor with buffer, ring := ring.setYanked start stop }, .redraw)

/-- A press of the tab key in either direction. -/
def completeWith (editor : Editor) (source : Source) (next : Nat → Option Nat → Nat) :
    Editor × Effects :=
  let (completion, buffer, outcome) := editor.completion.press editor.buffer source next
  ({ editor with completion, buffer }, .redrawIf (outcome ≠ .noCandidates))

def escape (editor : Editor) : Editor × Effects :=
  match editor.completion.cancel? editor.buffer with
  | none => (editor, .clean)
  | some (completion, buffer) => ({ editor with completion, buffer }, .redraw)

/-- A selected candidate is accepted first, and any other line is submitted. -/
def submit (editor : Editor) : Editor × Effects :=
  let (completion, accepted) := editor.completion.accept
  let editor := { editor with completion }
  if accepted then (editor, .redraw) else (editor.resetLine, .submit editor.buffer.shown)

def withSearch? (editor : Editor) (search? : Option HistorySearch) : Editor × Effects :=
  match search? with
  | none => (editor, .clean)
  | some search => ({ editor with search }, .redraw)

def acceptSearch (editor : Editor) : Editor :=
  let (search, command?) := editor.search.accept
  let buffer := (command?.map editor.buffer.setDraft).getD editor.buffer
  { editor with search, buffer }

def searchWith (editor : Editor) (action : SearchAction) : Editor × Effects :=
  if !editor.search.active then (editor, .clean)
  else match action with
    | .type c => editor.withSearch? (some (editor.search.type c))
    | .erase => editor.withSearch? editor.search.erase?
    | .up => editor.withSearch? editor.search.up?
    | .down => editor.withSearch? editor.search.down?
    | .cycleFilter => editor.withSearch? (some editor.search.cycleFilter)
    | .cycleSort => editor.withSearch? (some editor.search.cycleSort)
    | .accept => (editor.acceptSearch, .redraw)
    | .cancel => editor.withSearch? (some editor.search.cancel)

/-- The action itself, without the books. -/
def handle (editor : Editor) (source : Source) : Action → Editor × Effects
  | .motion motion => editor.move motion
  | .edit edit => editor.edit edit
  | .kill kill => editor.kill kill
  | .yank => editor.yank
  | .yankPop => editor.yankPop
  | .historyOlder => editor.withBuffer? editor.buffer.older?
  | .historyNewer => editor.withBuffer? editor.buffer.newer?
  | .complete => editor.completeWith source Completion.following
  | .completeBack => editor.completeWith source Completion.preceding
  | .escape => editor.escape
  | .submit => editor.submit
  | .interrupt => (editor.resetLine, .interrupt)
  | .clearScreen => (editor, .clearScreen)
  | .searchStart => (editor.enterSearch, .redraw)
  | .search action => editor.searchWith action

/-- The books before an action. -/
def prepare (editor : Editor) (action : Action) : Editor :=
  { editor with
    completion :=
      if action.drivesCompletion then editor.completion else editor.completion.reset
    ring :=
      let ring := if action.isYank then editor.ring else editor.ring.clearYanked
      if action.isKill then ring else ring.breakChain }

/-- A kill that removes text hides the suggestion, and any other command brings it back. -/
def perform (editor : Editor) (source : Source) (action : Action) : Editor × Effects :=
  let (handled, effects) := (editor.prepare action).handle source action
  let suppressed := action.isKill && (editor.suppressed || effects.dirty)
  let after := { handled with suppressed }
  let dropped := editor.completion.isActive && !action.drivesCompletion
  let revealed := editor.suppressed && !suppressed && after.ghost?.isSome
  (after, { effects with dirty := effects.dirty || dropped || revealed })

/-- A pasted text becomes a single line and goes into the query or into the line. -/
def paste (editor : Editor) (text : Text) : Editor × Effects :=
  let line := text.singleLine
  if editor.search.active then
    ({ editor with search := editor.search.setQuery (editor.search.query ++ line) }, .redraw)
  else
    let prepared := { editor with
      completion := editor.completion.reset
      ring := editor.ring.clearYanked.breakChain
      suppressed := false }
    ((prepared.insert line).1, .redraw)

/-- A key without a binding does nothing. -/
def apply (editor : Editor) (source : Source) : Event → Editor × Effects
  | .key key =>
      match key.action? editor.mode with
      | none => (editor, .clean)
      | some action => editor.perform source action
  | .paste text => editor.paste text
  | .resize size => (editor.resize size, .redraw)

end Editor

end Promptline
