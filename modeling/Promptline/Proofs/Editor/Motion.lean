/-
This file says what a motion does to the text. A motion inserts a suggestion only, and where it ends
a session that hides one it inserts a suggestion that is not on screen.
-/

import Promptline.Proofs.Editor.Session

namespace Promptline

namespace LineBuffer

/-- A text that is left of the cut fits into the line or leaves a part of itself. -/
theorem cut_room_ne_nil (buffer : LineBuffer) {text : Text} (filled : text ≠ []) :
    cut (buffer.room? 0) text ≠ [] ↔
      ∀ limit, buffer.limit? = some limit → buffer.length < limit := by
  cases bounded : buffer.limit? with
  | none => simp [room?, cut, bounded, filled]
  | some limit =>
      simp only [room?, bounded, Option.map_some, cut, ne_eq, List.take_eq_nil_iff, filled,
        or_false, Option.some.injEq, forall_eq', Nat.sub_zero]
      omega

/-- At the end of the line an inserted text is appended. -/
theorem shown_insert_atEnd {buffer : LineBuffer} (ends : buffer.atEnd = true) (text : Text) :
    (buffer.insert text).1.shown = buffer.shown ++ cut (buffer.room? 0) text := by
  have last : buffer.cursor = buffer.shown.length := of_decide_eq_true ends
  rw [shown_insert, last, List.take_length, List.drop_length, List.append_nil]

end LineBuffer

namespace Editor

/-- The cursor moves over the text and leaves it alone. -/
theorem shown_moved (buffer : LineBuffer) (motion : Motion) :
    ((moved? buffer motion).getD buffer).shown = buffer.shown := by
  obtain ⟨offset, moved⟩ := buffer.exists_getD_moved? motion
  rw [moved]
  rfl

/-- The text once a motion has taken the suggestion on screen, if it is one that takes it. -/
def textAfter (editor : Editor) (motion : Motion) : Text :=
  match if takesGhost motion then editor.ghost? else none with
  | some rest => editor.buffer.shown ++ LineBuffer.cut (editor.buffer.room? 0) rest
  | none => editor.buffer.shown

/-- A suggestion is on screen only at the end of a line without a session, and it has text. -/
theorem atEnd_of_ghost? {editor : Editor} {rest : Text} (suggested : editor.ghost? = some rest) :
    editor.buffer.atEnd = true ∧ editor.completion.isActive = false ∧ rest ≠ [] := by
  simp only [ghost?] at suggested
  split at suggested
  next shown =>
    simp only [Bool.and_eq_true, Bool.not_eq_true'] at shown
    exact ⟨shown.2, shown.1.1.1.2, Suggestion.rest?_ne_nil suggested⟩
  · simp at suggested

theorem shown_move (editor : Editor) (motion : Motion) :
    (editor.move motion).1.buffer.shown = editor.textAfter motion := by
  have still : (editor.withBuffer? (moved? editor.buffer motion)).1.buffer.shown =
      editor.buffer.shown := by
    have moved := shown_moved editor.buffer motion
    cases next : moved? editor.buffer motion with
    | none => rfl
    | some buffer =>
        rw [next] at moved
        exact moved
  cases taken : takesGhost motion with
  | false => simpa only [move, textAfter, taken, Bool.and_false, Bool.false_eq_true, if_false]
  | true =>
      cases suggested : editor.ghost? with
      | none =>
          simpa only [move, textAfter, taken, acceptGhost?, suggested, Option.map_none, ite_self]
      | some rest =>
          obtain ⟨ends, _⟩ := atEnd_of_ghost? suggested
          simp only [move, textAfter, taken, acceptGhost?, suggested, ends, Bool.and_true, if_true,
            Option.map_some]
          exact LineBuffer.shown_insert_atEnd ends rest

/-- A motion works on the line without the session. -/
theorem shown_apply_motion {editor : Editor} (editing : editor.mode = .edit) {key : Key}
    {motion : Motion} (bound : key.editAction? = some (.motion motion)) (source : Source) :
    (editor.apply source (.key key)).1.buffer.shown = editor.withoutSession.textAfter motion := by
  rw [apply_of_editing editing bound]
  exact shown_move (editor.prepare (.motion motion)) motion

/-- The motion ends a session that hides a suggestion, and there is room to insert it. -/
structure Reveals (editor : Editor) (motion : Motion) : Prop where
  active : editor.completion.isActive = true
  takes : takesGhost motion = true
  hidden : editor.withoutSession.ghost?.isSome = true
  roomy : ∀ limit, editor.buffer.limit? = some limit → editor.buffer.length < limit

theorem textAfter_of_active {editor : Editor} (active : editor.completion.isActive = true)
    (motion : Motion) : editor.textAfter motion = editor.buffer.shown := by
  have none : editor.ghost? = none := by
    simp [ghost?, active]
  simp [textAfter, none]

/-- The text of a line without its session differs from the line only by what is revealed. -/
theorem textAfter_withoutSession {editor : Editor} (active : editor.completion.isActive = true)
    (motion : Motion) :
    editor.withoutSession.textAfter motion = editor.buffer.shown ↔ ¬ editor.Reveals motion := by
  cases taken : takesGhost motion with
  | false =>
      refine iff_of_true ?_ fun reveals => ?_
      · simp only [textAfter, taken, Bool.false_eq_true, if_false]
        rfl
      · simpa [taken] using reveals.takes
  | true =>
      cases suggested : editor.withoutSession.ghost? with
      | none =>
          refine iff_of_true ?_ fun reveals => ?_
          · simp only [textAfter, suggested, ite_self]
            rfl
          · simpa [suggested] using reveals.hidden
      | some rest =>
          have filled := (atEnd_of_ghost? suggested).2.2
          have appended : editor.withoutSession.textAfter motion =
              editor.buffer.shown ++ LineBuffer.cut (editor.buffer.room? 0) rest := by
            simp only [textAfter, taken, suggested, if_true]
            rfl
          have fits := LineBuffer.cut_room_ne_nil editor.buffer filled
          rw [appended, List.append_right_eq_self]
          constructor
          · intro nothing reveals
            exact fits.2 reveals.roomy nothing
          · intro unrevealed
            by_cases nothing : LineBuffer.cut (editor.buffer.room? 0) rest = []
            · exact nothing
            · have hidden : editor.withoutSession.ghost?.isSome = true := by
                rw [suggested]
                rfl
              exact absurd ⟨active, taken, hidden, fits.1 nothing⟩ unrevealed

/-- A motion key inserts the suggestion that is on screen and no other text, unless it ends a
session that hides a suggestion. Then it inserts the hidden one. -/
theorem shown_apply_motion_iff {editor : Editor} (editing : editor.mode = .edit) {key : Key}
    {motion : Motion} (bound : key.editAction? = some (.motion motion)) (source : Source) :
    let after := (editor.apply source (.key key)).1
    (after.buffer.shown = editor.textAfter motion ↔ ¬ editor.Reveals motion) ∧
      (editor.completion.isActive = true →
        (after.buffer.shown = editor.buffer.shown ↔ ¬ editor.Reveals motion)) ∧
      ∀ rest, editor.Reveals motion → editor.withoutSession.ghost? = some rest →
        after.buffer.shown =
          editor.buffer.shown ++ LineBuffer.cut (editor.buffer.room? 0) rest := by
  dsimp only
  rw [shown_apply_motion editing bound source]
  refine ⟨?_, fun active => textAfter_withoutSession active motion, fun rest reveals hidden => ?_⟩
  · cases active : editor.completion.isActive with
    | false =>
        rw [withoutSession_of_idle (Completion.session?_of_inactive active)]
        apply iff_of_true rfl
        intro reveals
        simpa [active] using reveals.active
    | true =>
        rw [textAfter_of_active active]
        exact textAfter_withoutSession active motion
  · simp only [textAfter, reveals.takes, hidden, if_true]
    rfl

/-- The suggestion on screen goes into the line. -/
theorem shown_after_accepted_suggestion :
    let source := Source.onEmptyLine (Text.of "b")
    let right := Key.plain .right
    let editor := (small none [Text.of "ab"]).run [(source, .key (.typed 'a'))]
    editor.mode = .edit ∧ right.editAction? = some (.motion .right) ∧ ¬ editor.Reveals .right ∧
      (editor.apply source (.key right)).1.buffer.shown = Text.of "ab" := by
  intro source right editor
  have editing : editor.mode = .edit := by decide
  have bound : right.editAction? = some (.motion .right) := rfl
  have unrevealed : ¬ editor.Reveals .right := fun reveals =>
    Bool.false_ne_true reveals.active
  have taken := (shown_apply_motion_iff editing bound source).1.2 unrevealed
  refine ⟨editing, bound, unrevealed, ?_⟩
  rw [taken]
  decide

/-- A session hides the rest of a command, and the motion that ends the session inserts it. -/
theorem shown_after_hidden_suggestion :
    let source := Source.onEmptyLine (Text.of "a")
    let right := Key.plain .right
    let editor := (small none [Text.of "ab"]).run [(source, .key (.plain .tab))]
    editor.Reachable ∧ editor.mode = .edit ∧ right.editAction? = some (.motion .right) ∧
      editor.completion.isActive = true ∧ editor.ghost? = none ∧
      editor.buffer.shown = Text.of "a" ∧
      (editor.apply source (.key right)).1.buffer.shown = Text.of "ab" := by
  intro source right editor
  exact ⟨(reachable_small none _).run _, by decide, rfl, by decide, by decide, by decide,
    by decide⟩

end Editor

end Promptline
