/-
This file follows a line through any run of operations. Its offsets stay in range, its entries are
the ones that were set last, and its error speaks of the draft, unless a reset has cleared both.
-/

import Mathlib.Data.List.Infix
import Promptline.Proofs.LineBuffer.Editing

namespace Promptline.LineBuffer

def performAll (buffer : LineBuffer) (operations : List Operation) : LineBuffer :=
  operations.foldl perform buffer

theorem performAll_append (buffer : LineBuffer) (operations : List Operation)
    (operation : Operation) :
    buffer.performAll (operations ++ [operation]) =
      (buffer.performAll operations).perform operation := by
  simp only [performAll, List.foldl_append, List.foldl_cons, List.foldl_nil]

theorem Reachable.performAll {buffer : LineBuffer} (reachable : buffer.Reachable)
    (operations : List Operation) : (buffer.performAll operations).Reachable := by
  induction operations generalizing buffer with
  | nil => exact reachable
  | cons operation rest inductionHypothesis =>
      exact inductionHypothesis (reachable.perform operation)

/-- The entries that the operation sets. -/
def Operation.entries? : Operation → Option (List Text)
  | setEntries entries => some entries
  | _ => none

/-- The entries that were set last. A new line has none. -/
def lastEntries (operations : List Operation) : List Text :=
  ((operations.filterMap Operation.entries?).getLast?).getD []

theorem lastEntries_append (operations : List Operation) (operation : Operation) :
    lastEntries (operations ++ [operation]) =
      operation.entries?.getD (lastEntries operations) := by
  cases set : operation.entries? with
  | none => simp [lastEntries, List.filterMap_append, set]
  | some entries => simp [lastEntries, List.filterMap_append, set]

/-- What the host has set up once it has seen the operation. -/
def Operation.sets (setup : List Text × Option Nat × Option Validator) :
    Operation → List Text × Option Nat × Option Validator
  | setEntries entries => (entries, setup.2)
  | setLimit limit? => (setup.1, limit?, setup.2.2)
  | setValidator validator? => (setup.1, setup.2.1, validator?)
  | _ => setup

theorem setup_perform_eq_sets (buffer : LineBuffer) (operation : Operation) :
    (buffer.perform operation).setup = operation.sets buffer.setup := by
  cases operation with
  | setEntries => rfl
  | setLimit => rfl
  | setValidator => rfl
  | _ => exact setup_perform buffer rfl

theorem entries_perform (buffer : LineBuffer) (operation : Operation) :
    (buffer.perform operation).entries = operation.entries?.getD buffer.entries := by
  have setup := congrArg Prod.fst (setup_perform_eq_sets buffer operation)
  cases operation with
  | setEntries => rfl
  | _ => exact setup

theorem entries_performAll (limit? : Option Nat) (operations : List Operation) :
    ((empty limit?).performAll operations).entries = lastEntries operations := by
  induction operations using List.reverseRecOn with
  | nil => rfl
  | append_singleton operations operation inductionHypothesis =>
      rw [performAll_append, entries_perform, lastEntries_append, inductionHypothesis]

/-- There was a reset, and the draft has been empty ever since. -/
def Cleared (limit? : Option Nat) (operations : List Operation) : Prop :=
  ∃ earlier later, operations = earlier ++ .reset :: later ∧
    ∀ done, done <+: later → ((empty limit?).performAll (earlier ++ .reset :: done)).draft = []

/-- A reset clears the draft. -/
theorem cleared_reset (limit? : Option Nat) (operations : List Operation) :
    Cleared limit? (operations ++ [.reset]) := by
  refine ⟨operations, [], rfl, fun done earlier => ?_⟩
  obtain rfl := List.prefix_nil.1 earlier
  rw [performAll_append]
  rfl

/-- A cleared draft stays cleared as long as it does not change. -/
theorem Cleared.append {limit? : Option Nat} {operations : List Operation}
    (cleared : Cleared limit? operations) {operation : Operation}
    (same : ((empty limit?).performAll (operations ++ [operation])).draft =
      ((empty limit?).performAll operations).draft) :
    Cleared limit? (operations ++ [operation]) := by
  obtain ⟨earlier, later, rfl, empty⟩ := cleared
  refine ⟨earlier, later ++ [operation], by simp, fun done part => ?_⟩
  rcases List.prefix_concat_iff.1 part with rfl | before
  · rw [← List.cons_append, ← List.append_assoc, same]
    exact empty later List.prefix_rfl
  · exact empty done before

/-- The error is what the validator says about the draft, unless the draft is cleared. -/
theorem error?_performAll (limit? : Option Nat) (operations : List Operation) :
    let line := (empty limit?).performAll operations
    line.error? = line.objection? ∨ line.error? = none ∧ Cleared limit? operations := by
  induction operations using List.reverseRecOn with
  | nil => exact .inl rfl
  | append_singleton operations operation inductionHypothesis =>
      have inside := ((Reachable.empty limit?).performAll operations).bounded.cursor_le
      have appended := performAll_append (empty limit?) operations operation
      rw [appended]
      have unchanged (draft : (((empty limit?).performAll operations).perform operation).draft =
            ((empty limit?).performAll operations).draft)
          (error : (((empty limit?).performAll operations).perform operation).error? =
            ((empty limit?).performAll operations).error?)
          (validator : (((empty limit?).performAll operations).perform operation).validator? =
            ((empty limit?).performAll operations).validator?) :
          let line := ((empty limit?).performAll operations).perform operation
          line.error? = line.objection? ∨
            line.error? = none ∧ Cleared limit? (operations ++ [operation]) := by
        rcases inductionHypothesis with reviewed | ⟨none, cleared⟩
        · refine .inl ?_
          rw [error, reviewed, objection?, objection?, validator, draft]
        · refine .inr ⟨error.trans none, cleared.append ?_⟩
          rw [appended, draft]
      cases asked : ((empty limit?).performAll operations).edit? operation with
      | none =>
          obtain ⟨draft, reviewed | ⟨error, validator⟩⟩ := draft_perform_of_not_edit asked
          · exact .inl reviewed
          · exact unchanged draft error validator
      | some edit =>
          have edited := edited_of_edit? inside asked
          cases denied : (((empty limit?).performAll operations).report operation).deniesChange with
          | true =>
              have same := (edited.idle denied).1
              exact unchanged (congrArg draft same) (congrArg error? same)
                (congrArg validator? same)
          | false =>
              have error := (edited.replaces denied).1.error_eq
              cases operation with
              | reset => exact .inr ⟨error, cleared_reset limit? operations⟩
              | _ => exact .inl error

/-- After any operations the offsets are in range, the entries are the ones set last, and the error
is what the validator says about the draft, unless a reset has cleared both. An operation that
denies a change makes none, and if it is an edit, then nothing was to come out and nothing would
have gone in. Any other edit puts as much of its text as fits in place of its span, and what is no
edit leaves the draft alone and goes to its place. -/
theorem performAll_represents (limit? : Option Nat) (operations : List Operation) :
    let line := (empty limit?).performAll operations
    line.cursor ≤ line.length ∧ line.selected ≤ line.entries.length ∧
      line.entries = lastEntries operations ∧
      (line.error? = line.objection? ∨ line.error? = none ∧ Cleared limit? operations) ∧
      ∀ operation, let after := line.perform operation
        let report := line.report operation
        (report.deniesChange = true → after = line ∧
          ∀ edit, line.edit? operation = some edit →
            line.shown.slice edit.start edit.stop = [] ∧ line.accepted edit = []) ∧
        after.setup = operation.sets line.setup ∧
        (line.edit? operation = none → after.draft = line.draft ∧
          after.selected = line.selectedAfter operation ∧
          after.cursor = line.placeAfter operation) ∧
        ∀ edit, line.edit? operation = some edit → report.deniesChange = false →
          edit.start ≤ edit.stop ∧ edit.stop ≤ line.length ∧ after.selected = 0 ∧
          (∀ text, report.text? = some text → text = line.shown.slice edit.start edit.stop) ∧
          let inserted := line.accepted edit
          inserted <+: edit.text ∧
            after.draft = line.shown.take edit.start ++ inserted ++ line.shown.drop edit.stop ∧
            after.cursor = line.cursorAfter operation edit inserted := by
  intro line
  have bounded : line.Bounded := ((Reachable.empty limit?).performAll operations).bounded
  refine ⟨bounded.cursor_le, bounded.selected_le, entries_performAll limit? operations,
    error?_performAll limit? operations, ?_⟩
  intro operation after report
  refine ⟨?_, setup_perform_eq_sets line operation, ?_, ?_⟩
  · intro denied
    constructor
    · exact perform_of_deniesChange bounded.cursor_le denied
    · intro edit asked
      exact ((edited_of_edit? bounded.cursor_le asked).idle denied).2
  · intro other
    have goes := goes_of_not_edit bounded other
    exact ⟨goes.draft_eq, goes.selected_eq, goes.cursor_eq⟩
  · intro edit asked told
    obtain ⟨replaces, given⟩ := (edited_of_edit? bounded.cursor_le asked).replaces told
    exact ⟨replaces.ordered, replaces.inside, replaces.selected_eq, given,
      line.accepted_isPrefix edit, replaces.draft_eq, replaces.cursor_eq⟩

/-- A recalled entry becomes the draft with as much of a text as fits, a deletion at its end denies
a change, a removal keeps the cursor behind what is left before it, a kill gives back its word, and
the way back to the draft leads to its end. -/
theorem performAll_represents_recalled_entry :
    let validator : Validator := fun draft =>
      if 'x' ∈ draft then some (Text.of "no x") else none
    let operations := [.setValidator (some validator), .setEntries [Text.of "fix it"],
      .insert (Text.of "ab"), .older]
    let line := (empty (some 7)).performAll operations
    let replaced := line.perform (.replace 4 6 (Text.of "them"))
    let removed := line.perform (.remove 1 4)
    let returned := line.perform .newer
    line.shown = Text.of "fix it" ∧ line.cursor = 6 ∧ line.entries = [Text.of "fix it"] ∧
      line.error? = none ∧ (line.report .deleteAfter).deniesChange = true ∧
      line.perform .deleteAfter = line ∧
      replaced.draft = Text.of "fix the" ∧ replaced.cursor = 7 ∧
      replaced.error? = some (Text.of "no x") ∧
      removed.draft = Text.of "fit" ∧ removed.selected = 0 ∧ removed.cursor = 3 ∧
      returned.draft = Text.of "ab" ∧ returned.selected = 0 ∧ returned.cursor = 2 ∧
      (line.report (.kill .wordBefore)).text? = some (Text.of "it") := by
  intro validator operations line replaced removed returned
  obtain ⟨_, _, entries, _, each⟩ := performAll_represents (some 7) operations
  have denied : (line.report .deleteAfter).deniesChange = true := by decide
  obtain ⟨_, _, _, _, _, fixed, behind⟩ :=
    (each (.replace 4 6 (Text.of "them"))).2.2.2 ⟨4, 6, Text.of "them"⟩ (by decide) rfl
  obtain ⟨_, _, current, _, _, rest, left⟩ :=
    (each (.remove 1 4)).2.2.2 ⟨1, 4, []⟩ (by decide) (by decide)
  obtain ⟨_, _, _, given, _⟩ :=
    (each (.kill .wordBefore)).2.2.2 ⟨4, 6, []⟩ (by decide) (by decide)
  obtain ⟨draft, selected, cursor⟩ := (each .newer).2.2.1 rfl
  refine ⟨by decide, by decide, entries.trans (by decide), by decide, denied,
    ((each .deleteAfter).1 denied).1, fixed.trans (by decide), behind.trans (by decide), by decide,
    rest.trans (by decide), current, left.trans (by decide), draft.trans (by decide),
    selected.trans (by decide), cursor.trans (by decide), ?_⟩
  obtain ⟨text, told⟩ : ∃ text, (line.report (.kill .wordBefore)).text? = some text :=
    Option.isSome_iff_exists.1 (by decide)
  exact told.trans (congrArg some ((given text told).trans (by decide)))

end Promptline.LineBuffer
