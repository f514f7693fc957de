/-
This file defines tab completion. A session keeps the start of the replaced span for its whole life,
and the end follows the text that the session itself has put there.
-/

import Promptline.Completion.Candidate
import Promptline.LineBuffer

namespace Promptline

structure CompletionSession where
  candidates : List Candidate
  /-- No candidate is selected as long as the choice is open. -/
  selected? : Option Nat
  start : Nat
  stop : Nat
  /-- The line and the cursor from before the session. -/
  line : Text
  cursor : Nat
  boxed : Bool
  help : Text
  deriving DecidableEq, Repr

/-- The answer to a press of the tab key. -/
inductive TabOutcome where
  | noCandidates
  /-- The only candidate is in the line. -/
  | completed
  /-- The line holds the common start of all candidates, which is longer than what was typed. -/
  | extended
  /-- The line holds the common start already. -/
  | ambiguous
  | selected (index : Nat)
  deriving DecidableEq, Repr

namespace TabOutcome

def changesLine : TabOutcome → Bool
  | noCandidates | ambiguous => false
  | _ => true

end TabOutcome

/-- An eager completion selects the first candidate when nothing else can be done. -/
structure Completion where
  session? : Option CompletionSession
  eager : Bool
  deriving DecidableEq, Repr

/-- The common start of the values, if it has more characters than the typed text. -/
def extension? (typed : Text) (candidates : List Candidate) : Option Text :=
  let shared := Text.commonStart (candidates.map Candidate.value)
  if typed.length < shared.length then some shared else none

namespace CompletionSession

/-- The candidate takes the place of the span. -/
def select (session : CompletionSession) (buffer : LineBuffer) (index : Nat) :
    CompletionSession × LineBuffer :=
  match session.candidates[index]? with
  | none => (session, buffer)
  | some candidate =>
      let (buffer, stop) := buffer.replace session.start session.stop candidate.value
      ({ session with stop, selected? := some index }, buffer)

/-- The suffix of the selected candidate. -/
def suffix? (session : CompletionSession) : Option Text := do
  (← session.candidates[← session.selected?]?).suffix?

/-- A candidate with a space may reach back over the word before the token, if it starts with that
word and all that follows up to the cursor. -/
def phraseStart? (text : Text) (start cursor : Nat) (candidates : List Candidate) : Option Nat :=
  if candidates.any fun candidate => candidate.value.contains ' ' then do
    let wider ← text.precedingWordStart? start
    let first ← candidates.head?
    if first.value.startsWith (text.slice wider (max cursor wider)) then some wider else none
  else none

/-- The replaced span starts at the line start behind a sigil, at a phrase, or at the token. -/
def spanStart (source : Source) (text : Text) (cursor : Nat) (candidates : List Candidate) : Nat :=
  let start := text.tokenStart cursor
  if source.takesWholeLine text then 0
  else (phraseStart? text start cursor candidates).getD start

end CompletionSession

namespace Completion

def idle (eager : Bool) : Completion := ⟨none, eager⟩

def isActive (completion : Completion) : Bool := completion.session?.isSome

/-- The box with the candidates is on screen. -/
def isBoxed (completion : Completion) : Bool := completion.session?.any CompletionSession.boxed

def candidates (completion : Completion) : List Candidate :=
  (completion.session?.map CompletionSession.candidates).getD []

def selected? (completion : Completion) : Option Nat :=
  completion.session?.bind CompletionSession.selected?

def help (completion : Completion) : Text :=
  (completion.session?.map CompletionSession.help).getD []

def suffix? (completion : Completion) : Option Text :=
  completion.session?.bind CompletionSession.suffix?

/-- The session ends and the line stays. -/
def reset (completion : Completion) : Completion := { completion with session? := none }

/-- The first press asks the source for the token at the cursor. -/
def activate (completion : Completion) (buffer : LineBuffer) (source : Source) :
    Completion × LineBuffer × TabOutcome :=
  let line := buffer.shown
  let cursor := buffer.cursor
  let candidates := source.candidates line cursor
  if candidates = [] then (completion.reset, buffer, .noCandidates)
  else
    let start := CompletionSession.spanStart source line cursor candidates
    let session : CompletionSession :=
      { candidates, selected? := none, start, stop := line.tokenEnd cursor, line, cursor,
        boxed := candidates.length ≠ 1, help := source.help line cursor }
    if candidates.length = 1 then
      let (session, buffer) := session.select buffer 0
      ({ completion with session? := some session }, buffer, .completed)
    else match extension? (line.slice start (max cursor start)) candidates with
      | some shared =>
          let (buffer, stop) := buffer.replace start session.stop shared
          ({ completion with session? := some { session with stop } }, buffer, .extended)
      | none =>
          if completion.eager then
            let (session, buffer) := session.select buffer 0
            ({ completion with session? := some session }, buffer, .selected 0)
          else ({ completion with session? := some session }, buffer, .ambiguous)

/-- A press moves the selection of a session with a choice, and otherwise starts a session. -/
def press (completion : Completion) (buffer : LineBuffer) (source : Source)
    (next : Nat → Option Nat → Nat) : Completion × LineBuffer × TabOutcome :=
  match completion.session? with
  | some session =>
      if 1 < session.candidates.length then
        let index := next session.candidates.length session.selected?
        let (session, buffer) := session.select buffer index
        ({ completion with session? := some session }, buffer, .selected index)
      else completion.activate buffer source
  | none => completion.activate buffer source

/-- The candidate after the selected one, or the first. -/
def following (count : Nat) : Option Nat → Nat
  | none => 0
  | some index => (index + 1) % count

theorem following_lt {count : Nat} (offered : 0 < count) (selected? : Option Nat) :
    following count selected? < count := by
  cases selected? with
  | none => exact offered
  | some index => exact Nat.mod_lt _ offered

/-- The candidate before the selected one, or the last. -/
def preceding (count : Nat) : Option Nat → Nat
  | none => count - 1
  | some index => (index + count - 1) % count

theorem preceding_lt {count : Nat} (offered : 0 < count) (selected? : Option Nat) :
    preceding count selected? < count := by
  cases selected? with
  | none => exact Nat.sub_lt offered Nat.one_pos
  | some index => exact Nat.mod_lt _ offered

def tab (completion : Completion) (buffer : LineBuffer) (source : Source) :
    Completion × LineBuffer × TabOutcome :=
  completion.press buffer source following

def backTab (completion : Completion) (buffer : LineBuffer) (source : Source) :
    Completion × LineBuffer × TabOutcome :=
  completion.press buffer source preceding

/-- The line and the cursor become what they were before the session. -/
def cancel? (completion : Completion) (buffer : LineBuffer) : Option (Completion × LineBuffer) :=
  completion.session?.map fun session =>
    (completion.reset, (buffer.setDraft session.line).setCursor session.cursor)

/-- A candidate that is selected in the box is accepted, which the flag says. -/
def accept (completion : Completion) : Completion × Bool :=
  (completion.reset, completion.isBoxed && completion.selected?.isSome)

end Completion

end Promptline
