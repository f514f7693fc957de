/-
This file compares a paste with typing. A paste outside the search keeps the books of a typed key,
so the editor ends up as if the characters of the pasted line had been typed one by one.
-/

import Promptline.Proofs.Editor.Reachable
import Promptline.Proofs.LineBuffer.Insertion

namespace Promptline

theorem Key.editAction?_typed {c : Char} (printed : isControl c = false) :
    (typed c).editAction? = some (.edit (.insert c)) := by
  have plain : (typed c).editAction? = plainEdit? false (.char c) := rfl
  rw [plain, plainEdit?, printed]
  rfl

/-- The keys of a text, one for each of its characters. -/
def Text.keys (text : Text) : List Key := text.map Key.typed

namespace Editor

/-- The books of a text that the user has put into the line. -/
def entered (editor : Editor) (buffer : LineBuffer) : Editor :=
  { editor with
    buffer
    completion := editor.completion.reset
    ring := editor.ring.clearYanked.breakChain
    suppressed := false }

theorem paste_of_editing {editor : Editor} (editing : editor.mode = .edit) (text : Text) :
    (editor.paste text).1 = editor.entered (editor.buffer.insert text.singleLine).1 := by
  have inactive := mode_eq_edit_iff.1 editing
  simp only [paste, inactive, Bool.false_eq_true, if_false]
  rfl

theorem apply_typed {editor : Editor} (editing : editor.mode = .edit) {c : Char}
    (printed : isControl c = false) (source : Source) :
    (editor.apply source (.key (.typed c))).1 = editor.entered (editor.buffer.insert [c]).1 := by
  rw [apply_of_editing editing (Key.editAction?_typed printed)]
  rfl

/-- The characters of a text that is not empty go in one by one as the text does at once. -/
theorem run_keys {editor : Editor} (editing : editor.mode = .edit)
    (inside : editor.buffer.Bounded) {text : Text} (filled : text ≠ [])
    (printed : ∀ c ∈ text, isControl c = false) {events : List (Source × Event)}
    (typed : events.map Prod.snd = text.keys.map Event.key) :
    editor.run events = editor.entered (editor.buffer.insert text).1 := by
  induction text generalizing editor events with
  | nil => exact absurd rfl filled
  | cons c rest inductionHypothesis =>
      obtain ⟨⟨source, event⟩, others, rfl, rfl, later⟩ := List.map_eq_cons_iff.1 typed
      have first := apply_typed editing (printed c List.mem_cons_self) source
      rw [Editor.run, first]
      by_cases last : rest = []
      · subst last
        obtain rfl := List.map_eq_nil_iff.1 later
        rfl
      · have joined := LineBuffer.insert_insert inside.cursor_le [c] rest
        rw [List.singleton_append] at joined
        have still : (editor.entered (editor.buffer.insert [c]).1).mode = .edit := editing
        have entered : (editor.entered (editor.buffer.insert [c]).1).run others =
            editor.entered ((editor.buffer.insert [c]).1.insert rest).1 :=
          inductionHypothesis still (inside.insert [c]) last
            (fun d member => printed d (List.mem_cons_of_mem c member)) later
        rw [entered, joined]

/-- Outside the search a pasted text leaves the editor as the keys of its single line do, whatever
sources they ask. -/
theorem Reachable.run_keys_eq_paste {editor : Editor} (reachable : editor.Reachable)
    (editing : editor.mode = .edit) (source : Source) {text : Text}
    (filled : text.singleLine ≠ []) {events : List (Source × Event)}
    (typed : events.map Prod.snd = text.singleLine.keys.map Event.key) :
    editor.run events = (editor.apply source (.paste text)).1 := by
  have printed : ∀ c ∈ text.singleLine, isControl c = false :=
    fun _ member => Text.isControl_eq_false_of_mem_singleLine member
  rw [run_keys editing reachable.line.bounded filled printed typed]
  exact (paste_of_editing editing text).symm

/-- A paste with a tab and a bell into a line with a session and room for three characters leaves
what four typed characters leave. -/
theorem run_keys_eq_paste_after_tab :
    let source := Source.onEmptyLine (Text.of "x")
    let editor := (small (some 4) []).run
      (pressed source [.typed 'q', .control 'w', .plain .tab])
    let text := Text.of "a\tb\x07c"
    let events := pressed source (Text.of "a bc").keys
    let after := (editor.apply source (.paste text)).1
    editor.Reachable ∧ editor.mode = .edit ∧ editor.completion.isActive = true ∧
      text.singleLine = Text.of "a bc" ∧ editor.run events = after ∧
      after.buffer.shown = Text.of "xa b" ∧ after.completion.isActive = false ∧
      after.ring.entries = [Text.of "q"] := by
  intro source editor text events after
  have reachable : editor.Reachable := (reachable_small _ _).run _
  have editing : editor.mode = .edit := by decide
  have line : text.singleLine = Text.of "a bc" := by decide +kernel
  have filled : text.singleLine ≠ [] := by
    rw [line]
    exact List.cons_ne_nil _ _
  have typed : events.map Prod.snd = text.singleLine.keys.map Event.key := by
    rw [line]
    rfl
  have same : editor.run events = after :=
    reachable.run_keys_eq_paste editing source filled typed
  refine ⟨reachable, editing, by decide, line, same, ?_, ?_, ?_⟩
  · rw [← same]
    decide
  · rw [← same]
    decide
  · rw [← same]
    decide

end Editor

end Promptline
