/-
This file follows the span of a completion session. The span lies between a head and a tail of the
line that no candidate touches, and what a new candidate replaces leaves no trace.
-/

import Promptline.Completion.Session
import Promptline.Proofs.LineBuffer.Insertion

namespace Promptline.CompletionSession

/-- The span of a session lies between the head and the tail of the line and holds the middle. -/
structure Spans (session : CompletionSession) (buffer : LineBuffer) (head middle tail : Text) :
    Prop where
  start_eq : session.start = head.length
  stop_eq : session.stop = session.start + middle.length
  shown_eq : buffer.shown = head ++ middle ++ tail

/-- The span is in order, and it ends inside the line. -/
theorem Spans.inside {session : CompletionSession} {buffer : LineBuffer} {head middle tail : Text}
    (spans : session.Spans buffer head middle tail) :
    session.start ≤ session.stop ∧ session.stop ≤ buffer.length := by
  have start := spans.start_eq
  have stop := spans.stop_eq
  rw [LineBuffer.length, spans.shown_eq]
  simp only [List.length_append]
  omega

/-- A session whose span is in order and inside the line cuts the line at the ends of the span. -/
theorem spans_of_inside {session : CompletionSession} {buffer : LineBuffer}
    (ordered : session.start ≤ session.stop) (inside : session.stop ≤ buffer.length) :
    session.Spans buffer (buffer.shown.take session.start)
      (buffer.shown.slice session.start session.stop) (buffer.shown.drop session.stop) := by
  rw [LineBuffer.length] at inside
  refine ⟨?_, ?_, (Text.take_append_slice_append_drop _ ordered).symm⟩
  · rw [List.length_take]
    omega
  · rw [Text.length_slice]
    omega

theorem Spans.slice_eq {session : CompletionSession} {buffer : LineBuffer} {head middle tail : Text}
    (spans : session.Spans buffer head middle tail) :
    buffer.shown.slice session.start session.stop = middle := by
  have stop : session.stop = (head ++ middle).length := by
    rw [spans.stop_eq, spans.start_eq, List.length_append]
  rw [Text.slice, spans.shown_eq, stop, List.take_left]
  exact List.drop_left' spans.start_eq.symm

/-- The text takes the place of what the span holds. -/
def put (session : CompletionSession) (buffer : LineBuffer) (text : Text) :
    CompletionSession × LineBuffer :=
  let (buffer, stop) := buffer.replace session.start session.stop text
  ({ session with stop }, buffer)

/-- The room of a span is the limit without the head and the tail. -/
def roomBetween (limit? : Option Nat) (head tail : Text) : Option Nat :=
  limit?.map fun limit => limit - (head.length + tail.length)

/-- The head and the tail outlive every text that is put between them. -/
theorem Spans.put {session : CompletionSession} {buffer : LineBuffer} {head middle tail : Text}
    (spans : session.Spans buffer head middle tail) (text : Text) :
    let inserted := LineBuffer.cut (roomBetween buffer.limit? head tail) text
    (session.put buffer text).1.Spans (session.put buffer text).2 head inserted tail ∧
      (session.put buffer text).2.cursor = (session.put buffer text).1.stop := by
  have start := spans.start_eq
  have stop : session.stop = (head ++ middle).length := by
    rw [spans.stop_eq, spans.start_eq, List.length_append]
  have same : LineBuffer.fitting buffer.limit? head tail text =
      LineBuffer.cut (roomBetween buffer.limit? head tail) text :=
    LineBuffer.fitting_eq_cut buffer.limit? head tail text
  obtain ⟨shows, atCursor⟩ := LineBuffer.replace_between spans.shown_eq text
  rw [← start, ← stop, same] at shows
  rw [← start, ← stop] at atCursor
  refine ⟨⟨start, ?_, shows.shown_eq⟩, atCursor.symm⟩
  have length : (buffer.replace session.start session.stop text).2 =
      head.length + (LineBuffer.cut (roomBetween buffer.limit? head tail) text).length := by
    rw [atCursor, shows.cursor_eq, List.length_append]
  rw [← start] at length
  exact length

/-- A candidate is put into the span and selected. -/
theorem select_eq {session : CompletionSession} {candidate : Candidate} {index : Nat}
    (found : session.candidates[index]? = some candidate) (buffer : LineBuffer) :
    session.select buffer index =
      ({ (session.put buffer candidate.value).1 with selected? := some index },
        (session.put buffer candidate.value).2) := by
  simp only [select, found, put]

/-- The next selection does not look at the last one. -/
theorem select_of_selected (session : CompletionSession) {index : Nat}
    (offered : index < session.candidates.length) (selected? : Option Nat) (buffer : LineBuffer) :
    { session with selected? }.select buffer index = session.select buffer index := by
  simp only [select, List.getElem?_eq_getElem offered]

/-- What the span holds is forgotten when a candidate is selected. -/
theorem select_put {session : CompletionSession} {buffer : LineBuffer} {head middle tail : Text}
    (spans : session.Spans buffer head middle tail) (text : Text) {index : Nat}
    (offered : index < session.candidates.length) :
    (session.put buffer text).1.select (session.put buffer text).2 index =
      session.select buffer index := by
  obtain ⟨ordered, inside⟩ := spans.inside
  have found : session.candidates[index]? = some session.candidates[index] :=
    List.getElem?_eq_getElem offered
  have found' : (session.put buffer text).1.candidates[index]? =
      some session.candidates[index] := found
  rw [select_eq found, select_eq found']
  simp only [put, LineBuffer.replace_replace buffer text _ ordered inside]

/-- A session with a selection has put the selected candidate into the line it was opened on. -/
def place (session : CompletionSession) (buffer : LineBuffer) :
    Option Nat → CompletionSession × LineBuffer
  | none => (session, buffer)
  | some index => session.select buffer index

/-- The new selection takes the place of the old one as if that had never been. -/
theorem select_place {session : CompletionSession} {buffer : LineBuffer} {head middle tail : Text}
    (spans : session.Spans buffer head middle tail) {selected? : Option Nat} {index : Nat}
    (known : ∀ index, selected? = some index → index < session.candidates.length)
    (offered : index < session.candidates.length) :
    (session.place buffer selected?).1.select (session.place buffer selected?).2 index =
      session.select buffer index := by
  cases selected? with
  | none => rfl
  | some before =>
      have listed := known before rfl
      have placed := select_eq (List.getElem?_eq_getElem listed) buffer
      have forgotten := select_put spans session.candidates[before].value offered
      rw [place, placed, ← forgotten]
      exact select_of_selected (session.put buffer _).1 offered (some before) _

@[simp] theorem candidates_place (session : CompletionSession) (buffer : LineBuffer)
    (selected? : Option Nat) :
    (session.place buffer selected?).1.candidates = session.candidates := by
  cases selected? with
  | none => rfl
  | some index =>
      simp only [place, select]
      split <;> rfl

@[simp] theorem start_place (session : CompletionSession) (buffer : LineBuffer)
    (selected? : Option Nat) : (session.place buffer selected?).1.start = session.start := by
  cases selected? with
  | none => rfl
  | some index =>
      simp only [place, select]
      split <;> rfl

/-- A placed session knows what it has placed. -/
theorem selected?_place {session : CompletionSession} (undecided : session.selected? = none)
    (buffer : LineBuffer) {selected? : Option Nat}
    (known : ∀ index, selected? = some index → index < session.candidates.length) :
    (session.place buffer selected?).1.selected? = selected? := by
  cases selected? with
  | none => exact undecided
  | some index => rw [place, select_eq (List.getElem?_eq_getElem (known index rfl))]

/-- The text between the head and the tail is the selected candidate as far as it fits, and without
a selection it is what was there before. -/
def content (session : CompletionSession) (room? : Option Nat) (before : Text) : Text :=
  match session.selected?.bind fun index => session.candidates[index]? with
  | some candidate => LineBuffer.cut room? candidate.value
  | none => before

/-- A placed candidate fills the span up to the cursor. -/
theorem Spans.place {session : CompletionSession} {buffer : LineBuffer} {head middle tail : Text}
    (spans : session.Spans buffer head middle tail) (undecided : session.selected? = none)
    {selected? : Option Nat}
    (known : ∀ index, selected? = some index → index < session.candidates.length) :
    let placed := session.place buffer selected?
    placed.1.Spans placed.2 head
        (placed.1.content (roomBetween buffer.limit? head tail) middle) tail ∧
      (selected? ≠ none → placed.2.cursor = placed.1.stop) := by
  cases selected? with
  | none =>
      have unchanged : session.content (roomBetween buffer.limit? head tail) middle = middle := by
        simp only [content, undecided, Option.bind_none]
      refine ⟨?_, fun chosen => absurd rfl chosen⟩
      change session.Spans buffer head (session.content _ middle) tail
      rw [unchanged]
      exact spans
  | some index =>
      have listed := known index rfl
      have found := List.getElem?_eq_getElem listed
      obtain ⟨filled, atStop⟩ := spans.put session.candidates[index].value
      simp only [CompletionSession.place, select_eq found]
      refine ⟨?_, fun _ => atStop⟩
      have chosen : { (session.put buffer session.candidates[index].value).1 with
          selected? := some index }.content (roomBetween buffer.limit? head tail) middle =
          LineBuffer.cut (roomBetween buffer.limit? head tail) session.candidates[index].value := by
        simp only [content, Option.bind_some, CompletionSession.put, found]
      rw [chosen]
      exact ⟨filled.start_eq, filled.stop_eq, filled.shown_eq⟩

/-- A span starts at a phrase or at the token unless a sigil opens the line. -/
theorem spanStart_of_not_takesWholeLine {source : Source} {text : Text}
    (plain : source.takesWholeLine text = false) (cursor : Nat) (candidates : List Candidate) :
    spanStart source text cursor candidates =
      (phraseStart? text (text.tokenStart cursor) cursor candidates).getD
        (text.tokenStart cursor) := by
  simp only [spanStart, plain, Bool.false_eq_true, if_false]

/-- Without a space there is no phrase. -/
theorem phraseStart?_of_not_mem {candidates : List Candidate}
    (joined : ∀ candidate ∈ candidates, ' ' ∉ candidate.value) (text : Text) (start cursor : Nat) :
    phraseStart? text start cursor candidates = none := by
  apply if_neg
  intro spaced
  obtain ⟨candidate, listed, held⟩ := List.any_eq_true.1 spaced
  exact joined candidate listed (List.contains_iff_mem.1 held)

/-- A phrase needs a word in front of the token. -/
theorem phraseStart?_of_alone {text : Text} {start : Nat}
    (alone : text.precedingWordStart? start = none) (cursor : Nat) (candidates : List Candidate) :
    phraseStart? text start cursor candidates = none := by
  simp [phraseStart?, alone]

end Promptline.CompletionSession
