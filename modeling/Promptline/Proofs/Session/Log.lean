/-
This file keeps a log of the lines of a session. Lines that are typed on a terminal leave the log
that they leave when they come from an input that is no terminal.
-/

import Promptline.Proofs.Editor.OneLine
import Promptline.Proofs.Session.Drawing
import Promptline.Session.Plain

namespace Promptline

/-- What came of a line, and what the session knows after it. -/
structure LineRecord where
  outcome : LineOutcome
  /-- The newest item comes first. -/
  history : List HistoryItem
  registry : Registry

/-- The text that is printed for the line. -/
def LineRecord.printed (record : LineRecord) : Text :=
  match record.outcome with
  | .output text => text
  | .exit => []

/-- The bytes of a printable character are no control codes. -/
theorem Text.le_of_mem_utf8 {text : Text} (clean : text.OnOneLine) {byte : UInt8}
    (member : byte ∈ text.utf8) : 32 ≤ byte.toNat := by
  obtain ⟨c, held, coded⟩ := List.mem_flatMap.1 member
  have above : ¬ c.val.toNat ≤ 31 := by
    have kept := clean c held
    simp only [isControl, Bool.or_eq_false_iff, decide_eq_false_iff_not] at kept
    exact kept.1
  rw [String.utf8EncodeChar] at coded
  split at coded
  · obtain rfl := List.mem_singleton.1 coded
    simp only [UInt8.toNat_ofNat']
    omega
  · split at coded
    · simp only [List.mem_cons, List.not_mem_nil, or_false] at coded
      rcases coded with rfl | rfl <;> simp only [UInt8.toNat_ofNat'] <;> omega
    · split at coded <;> simp only [List.mem_cons, List.not_mem_nil, or_false] at coded
      · rcases coded with rfl | rfl | rfl <;> simp only [UInt8.toNat_ofNat'] <;> omega
      · rcases coded with rfl | rfl | rfl | rfl <;> simp only [UInt8.toNat_ofNat'] <;> omega

namespace Plain

/-- The history after a line that has run. -/
def remembered (directory line : Text) (history : List HistoryItem) : List HistoryItem :=
  if Session.remembers line then ⟨line, directory⟩ :: history else history

/-- The records of the lines up to the one that ends the session. -/
def log (directory : Text) (session : Session) (history : List HistoryItem) :
    List Text → List LineRecord
  | [] => []
  | line :: rest =>
      match session.execute line history with
      | (after, .exit) => [⟨.exit, history, after.registry⟩]
      | (after, .output text) =>
          let known := remembered directory line history
          ⟨.output text, known, after.registry⟩ :: log directory after known rest

/-- A run prints what its log tells, and it ends without a fault. -/
theorem run_eq_log (directory : Text) (session : Session) (history : List HistoryItem)
    (texts : List Text) :
    run directory session history (texts.map Text.utf8) =
      ⟨(log directory session history texts).flatMap LineRecord.printed, 0⟩ := by
  induction texts generalizing session history with
  | nil => rfl
  | cons line rest inductionHypothesis =>
      simp only [List.map_cons, run, Text.ofUtf8?_utf8, log]
      cases executed : session.execute line history with
      | mk after outcome =>
          cases outcome with
          | exit => rfl
          | output text =>
              have next := inductionHypothesis after (remembered directory line history)
              simp only [remembered] at next
              simp only [next, remembered, List.flatMap_cons, LineRecord.printed]

/-- An input holds lines, each with a line feed behind it. -/
def input (texts : List Text) : List UInt8 := texts.flatMap fun line => line.utf8 ++ [10]

/-- The open line goes on to the next line feed. -/
theorem linesFrom_append {bytes : List UInt8} (printed : ∀ byte ∈ bytes, 32 ≤ byte.toNat)
    (held rest : List UInt8) :
    linesFrom held (bytes ++ 10 :: rest) = lineOf (bytes.reverse ++ held) :: linesFrom [] rest := by
  induction bytes generalizing held with
  | nil => simp [linesFrom]
  | cons byte bytes inductionHypothesis =>
      obtain ⟨first, later⟩ := List.forall_mem_cons.1 printed
      have further : byte ≠ 10 := by
        rintro rfl
        exact absurd first (by decide)
      rw [List.cons_append, linesFrom, if_neg further, inductionHypothesis later]
      simp

/-- A line that ends with no carriage return is kept whole. -/
theorem lineOf_reverse {bytes : List UInt8} (printed : ∀ byte ∈ bytes, 32 ≤ byte.toNat) :
    lineOf bytes.reverse = bytes := by
  cases last : bytes.reverse with
  | nil =>
      rw [List.reverse_eq_nil_iff] at last
      rw [last]
      rfl
  | cons byte rest =>
      have member : byte ∈ bytes := by
        rw [← List.mem_reverse, last]
        exact List.mem_cons_self
      have further : byte ≠ 13 := by
        rintro rfl
        exact absurd (printed 13 member) (by decide)
      have whole : lineOf (byte :: rest) = (byte :: rest).reverse := by
        simp [lineOf, further]
      rw [whole, ← last, List.reverse_reverse]

/-- The lines of an input without control characters are those that went into it. -/
theorem lines_input {texts : List Text} (clean : ∀ line ∈ texts, line.OnOneLine) :
    lines (input texts) = texts.map Text.utf8 := by
  induction texts with
  | nil => rfl
  | cons line rest inductionHypothesis =>
      obtain ⟨first, later⟩ := List.forall_mem_cons.1 clean
      have printed (byte : UInt8) (member : byte ∈ line.utf8) := Text.le_of_mem_utf8 first member
      have front : input (line :: rest) = line.utf8 ++ 10 :: input rest := by simp [input]
      rw [lines, front, linesFrom_append printed, List.append_nil, lineOf_reverse printed,
        List.map_cons, ← inductionHypothesis later, lines]

end Plain

namespace TerminalSession

/-- The record of an event that submits a line. -/
def record? (state : TerminalSession) (event : Event) : Option LineRecord :=
  let (editor, effects) := state.editor.apply state.session.source event
  effects.submitted?.map fun line =>
    let (executed, outcome) := state.session.execute line editor.history
    match state.next? event with
    | some next => ⟨outcome, next.editor.history, next.session.registry⟩
    | none => ⟨outcome, editor.history, executed.registry⟩

/-- The records of the events until the session ends, whatever is drawn. -/
def log (state : TerminalSession) : List Event → List LineRecord
  | [] => []
  | event :: rest =>
      (state.record? event).toList ++
        match state.next? event with
        | some next => next.log rest
        | none => []

/-- The state after the events, unless the session has ended. -/
def after (state : TerminalSession) : List Event → Option TerminalSession
  | [] => some state
  | event :: rest => (state.next? event).bind fun next => next.after rest

/-- The events that type a line and submit it. -/
def typing (line : Text) : List Event := line.keys.map Event.key ++ [.key (.plain .enter)]

/-- An event that neither submits nor ends leaves no record, and the session goes on. -/
theorem step_of_kept {state : TerminalSession} {event : Event}
    (unsubmitted : (state.editor.apply state.session.source event).2.submitted? = none)
    (unended : (state.editor.apply state.session.source event).2.ended = false) :
    state.record? event = none ∧
      state.next? event =
        some { state with editor := (state.editor.apply state.session.source event).1 } := by
  constructor
  · simp only [record?, unsubmitted, Option.map_none]
  · simp only [next?, settle, unsubmitted, unended, Bool.false_eq_true, if_false]

/-- A typed character only goes into the line. -/
theorem step_typed {state : TerminalSession} (editing : state.editor.mode = .edit) {c : Char}
    (printed : isControl c = false) :
    state.record? (.key (.typed c)) = none ∧
      state.next? (.key (.typed c)) =
        some { state with
          editor := (state.editor.apply state.session.source (.key (.typed c))).1 } := by
  have effects : (state.editor.apply state.session.source (.key (.typed c))).2.submitted? = none ∧
      (state.editor.apply state.session.source (.key (.typed c))).2.ended = false := by
    rw [Editor.apply_of_editing editing (Key.editAction?_typed printed)]
    exact ⟨rfl, rfl⟩
  exact step_of_kept effects.1 effects.2

/-- The characters of a line are typed without a record. -/
theorem log_keys {state : TerminalSession} (editing : state.editor.mode = .edit) {line : Text}
    (clean : line.OnOneLine) (rest : List Event) :
    let typed := { state with
      editor := state.editor.run (Editor.pressed state.session.source line.keys) }
    state.log (line.keys.map Event.key ++ rest) = typed.log rest ∧
      state.after (line.keys.map Event.key ++ rest) = typed.after rest := by
  induction line generalizing state with
  | nil => exact ⟨rfl, rfl⟩
  | cons c line inductionHypothesis =>
      have printed := clean c List.mem_cons_self
      obtain ⟨unrecorded, next⟩ := step_typed editing printed
      have still : (state.editor.apply state.session.source (.key (.typed c))).1.mode = .edit := by
        rw [Editor.apply_typed editing printed]
        exact editing
      have later : Text.OnOneLine line := clean.of_subset (List.subset_cons_self c line)
      obtain ⟨logged, ended⟩ := @inductionHypothesis
        ⟨state.session, (state.editor.apply state.session.source (.key (.typed c))).1⟩ still later
      have first : Text.keys (c :: line) = .typed c :: Text.keys line := rfl
      rw [first, List.map_cons, List.cons_append]
      constructor
      · rw [log, unrecorded, next]
        exact logged
      · rw [after, next]
        exact ended

/-- The enter key submits the line on display, and the next line starts empty. -/
theorem apply_enter {editor : Editor} {line : Text} {cursor : Nat}
    (awaits : editor.Awaits line cursor) (source : Source) :
    let (after, effects) := editor.apply source (.key (.plain .enter))
    effects.submitted? = some line ∧ effects.ended = false ∧ after.mode = .edit ∧
      after.completion.session? = none ∧ after.buffer = editor.buffer.reset ∧
      after.directory = editor.directory ∧ after.history = editor.history := by
  have bound : (Key.plain .enter).editAction? = some .submit := rfl
  have unaccepted : editor.completion.accept = (editor.completion.reset, false) := by
    simp only [Completion.accept, Completion.isBoxed, awaits.idle, Option.any_none,
      Bool.false_and]
  have prepared : (editor.prepare .submit).completion = editor.completion := rfl
  have searching : (editor.prepare .submit).search = editor.search := rfl
  have idle : editor.search.active = false := Editor.mode_eq_edit_iff.1 awaits.editing
  rw [Editor.apply_of_editing awaits.editing bound]
  simp only [Editor.perform, Editor.handle, Editor.submit, prepared, unaccepted,
    Bool.false_eq_true, if_false]
  refine ⟨congrArg some awaits.shown_eq, rfl, ?_, rfl, rfl, rfl, rfl⟩
  simp only [Editor.mode_eq_edit_iff, Editor.resetLine, searching, idle, Bool.false_eq_true,
    if_false]

/-- The terminal session waits for a line and knows what the other run of the session knows. -/
structure Waits (state : TerminalSession) (directory : Text) (session : Session)
    (history : List HistoryItem) : Prop where
  awaits : state.editor.Awaits [] 0
  bounded : state.editor.buffer.Bounded
  session_eq : state.session = session
  directory_eq : state.editor.directory = directory
  history_eq : state.editor.history = history

section Waits

variable {state : TerminalSession} {directory : Text} {session : Session}
  {history : List HistoryItem}

/-- A typed line is on display, and everything else is as it was. -/
theorem Waits.type (waits : state.Waits directory session history) {line : Text}
    (clean : line.OnOneLine) :
    let editor := state.editor.run (Editor.pressed state.session.source line.keys)
    editor.Awaits line line.length ∧ editor.directory = directory ∧ editor.history = history := by
  refine ⟨waits.awaits.type waits.bounded clean state.session.source, ?_⟩
  by_cases empty : line = []
  · rw [empty]
    exact ⟨waits.directory_eq, waits.history_eq⟩
  · have typed : (Editor.pressed state.session.source line.keys).map Prod.snd =
        line.keys.map Event.key := List.map_map
    rw [Editor.run_keys waits.awaits.editing waits.bounded empty clean typed]
    exact ⟨waits.directory_eq, waits.history_eq⟩

/-- Once a line has run the terminal waits for the next one with what it has remembered. -/
theorem waits_of_entered {editor : Editor} {line : Text} (editing : editor.mode = .edit)
    (idle : editor.completion.session? = none) (unlimited : editor.buffer.limit? = none)
    (cleared : editor.buffer = editor.buffer.reset) (directory_eq : editor.directory = directory)
    (history_eq : editor.history = history) :
    Waits ⟨session, if Session.remembers line then editor.pushHistory ⟨line, directory⟩
      else editor⟩ directory session (Plain.remembered directory line history) := by
  have draft : editor.buffer.draft = [] := by rw [cleared]; rfl
  have cursor : editor.buffer.cursor = 0 := by rw [cleared]; rfl
  have current : editor.buffer.selected = 0 := by rw [cleared]; rfl
  simp only [Plain.remembered]
  split
  · have start : min editor.buffer.cursor editor.buffer.draft.length = 0 := by
      rw [cursor, Nat.zero_min]
    exact ⟨⟨editing, idle, unlimited, draft, start⟩,
      LineBuffer.bounded_of_draft rfl (Nat.min_le_right _ _), rfl, directory_eq,
      congrArg _ history_eq⟩
  · have shown : editor.buffer.shown = [] := by rw [LineBuffer.shown_eq_draft current, draft]
    have inside : editor.buffer.cursor ≤ editor.buffer.draft.length := by
      rw [cursor]
      exact Nat.zero_le _
    exact ⟨⟨editing, idle, unlimited, shown, cursor⟩,
      LineBuffer.bounded_of_draft current inside, rfl, directory_eq, history_eq⟩

/-- A submitted line runs as it does where it is read, and then the terminal waits for the next
line or has ended. -/
theorem step_enter {editor : Editor} {line : Text} {cursor : Nat}
    (awaits : editor.Awaits line cursor) (directory_eq : editor.directory = directory)
    (history_eq : editor.history = history) :
    let state : TerminalSession := ⟨session, editor⟩
    let enter : Event := .key (.plain .enter)
    match session.execute line history with
    | (after, .exit) =>
        state.record? enter = some ⟨.exit, history, after.registry⟩ ∧
          state.next? enter = none
    | (after, .output text) =>
        let known := Plain.remembered directory line history
        state.record? enter = some ⟨.output text, known, after.registry⟩ ∧
          ∃ next, state.next? enter = some next ∧ next.Waits directory after known := by
  intro state enter
  have entered := apply_enter awaits session.source
  cases applied : editor.apply session.source enter with
  | mk after effects =>
      rw [applied] at entered
      obtain ⟨submitted, unended, editing, idle, cleared, place, known⟩ := entered
      rw [directory_eq] at place
      rw [history_eq] at known
      have settled : state.next? enter = (settle ⟨session, after⟩ effects).2 := by
        simp only [next?, state, applied]
      cases executed : session.execute line history with
      | mk next outcome =>
          cases outcome with
          | exit =>
              have ended : state.next? enter = none := by
                simp only [settled, settle, submitted, unended, submit, known, executed,
                  Bool.false_eq_true, if_false]
              refine ⟨?_, ended⟩
              simp only [record?, ended]
              simp only [state, applied, submitted, known, executed, Option.map_some]
          | output text =>
              have cleared' : after.buffer = after.buffer.reset := by rw [cleared]; rfl
              have unlimited : after.buffer.limit? = none := by
                rw [cleared]
                exact awaits.unlimited
              let following :=
                if Session.remembers line then after.pushHistory ⟨line, directory⟩ else after
              have waits : Waits ⟨next, following⟩ directory next
                  (Plain.remembered directory line history) :=
                waits_of_entered editing idle unlimited cleared' place known
              have remembered : following.history = Plain.remembered directory line history :=
                waits.history_eq
              have went : state.next? enter = some ⟨next, following⟩ := by
                simp only [settled, settle, submitted, unended, submit, known, executed,
                  Bool.false_eq_true, if_false, place, following]
              refine ⟨?_, ⟨next, following⟩, went, waits⟩
              simp only [record?, went]
              simp only [state, applied, submitted, known, executed, Option.map_some, remembered]

/-- A line that is typed and submitted adds to the log what it adds where it is read. -/
theorem Waits.log (waits : state.Waits directory session history) {lines : List Text}
    (clean : ∀ line ∈ lines, line.OnOneLine) :
    state.log (lines.flatMap typing) = Plain.log directory session history lines ∧
      (state.after (lines.flatMap typing) = none ↔
        ∃ record ∈ Plain.log directory session history lines, record.outcome = .exit) := by
  induction lines generalizing state session history with
  | nil => simp [TerminalSession.log, TerminalSession.after, Plain.log]
  | cons line rest inductionHypothesis =>
      obtain ⟨printed, later⟩ := List.forall_mem_cons.1 clean
      obtain ⟨awaits, place, known⟩ := waits.type printed
      obtain ⟨logged, ended⟩ := log_keys waits.awaits.editing printed
        (.key (.plain .enter) :: rest.flatMap typing)
      have entered := @step_enter directory session history _ _ _ awaits place known
      rw [waits.session_eq] at logged ended entered
      have split : (line :: rest).flatMap typing =
          line.keys.map Event.key ++ .key (.plain .enter) :: rest.flatMap typing := by
        simp [typing]
      rw [split, logged, ended, Plain.log]
      cases executed : session.execute line history with
      | mk next outcome =>
          rw [executed] at entered
          cases outcome with
          | exit =>
              obtain ⟨recorded, finished⟩ := entered
              simp only [TerminalSession.log, TerminalSession.after, recorded, finished]
              simp
          | output text =>
              obtain ⟨recorded, following, went, waiting⟩ := entered
              obtain ⟨others, stops⟩ := inductionHypothesis waiting later
              simp only [TerminalSession.log, TerminalSession.after, recorded, went, others]
              simp [stops]

end Waits

/-- What is typed leaves a narrow screen narrow. -/
theorem keepsNarrow_of_mem_typing {line : Text} {event : Event} (member : event ∈ typing line) :
    event.KeepsNarrow := by
  rcases List.mem_append.1 member with typed | entered
  · obtain ⟨key, _, rfl⟩ := List.mem_map.1 typed
    trivial
  · obtain rfl := List.mem_singleton.1 entered
    trivial

end TerminalSession

end Promptline
