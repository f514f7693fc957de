/-
This file says what the operations of a line do to the text on display. An edit puts one text in
place of one span of it, all other operations leave the draft alone, and an operation that denies a
change makes none.
-/

import Promptline.Proofs.LineBuffer.Reachable

namespace Promptline.LineBuffer

/-- What an operation tells its host. -/
inductive Report where
  | nothing
  | changed (flag : Bool)
  /-- The number of characters that have gone in. -/
  | inserted (count : Nat)
  /-- The offset where the text that has gone in ends. -/
  | ended (offset : Nat)
  | removed (text : Text)
  | killed (text? : Option Text)
  deriving DecidableEq, Repr

namespace Report

/-- The host is told that nothing has changed. -/
def deniesChange : Report → Bool
  | changed flag => !flag
  | inserted count => decide (count = 0)
  | removed text => decide (text = [])
  | killed text? => text?.isNone
  | nothing | ended _ => false

/-- The text that the host gets back. -/
def text? : Report → Option Text
  | removed text => some text
  | killed text? => text?
  | _ => none

end Report

def report (buffer : LineBuffer) : Operation → Report
  | .insert text => .inserted (buffer.insert text).2
  | .remove start stop => .removed (buffer.remove start stop).2
  | .replace start stop text => .ended (buffer.replace start stop text).2
  | .deleteBefore => .changed buffer.deleteBefore?.isSome
  | .deleteAfter => .changed buffer.deleteAfter?.isSome
  | .kill kill => .killed ((Editor.killed? buffer kill).map Prod.snd)
  | .move motion => .changed (Editor.moved? buffer motion).isSome
  | .older => .changed buffer.older?.isSome
  | .newer => .changed buffer.newer?.isSome
  | .setLimit _ | .setValidator _ | .setEntries _ | .setCursor _ | .setDraft _ | .reset => .nothing

/-- A text that is to take the place of a span. -/
structure Replacement where
  start : Nat
  stop : Nat
  text : Text
  deriving DecidableEq, Repr

/-- The replacement that an edit asks for. The other operations are no edits. -/
def edit? (buffer : LineBuffer) : Operation → Option Replacement
  | .setDraft text => some ⟨0, buffer.length, text⟩
  | .reset => some ⟨0, buffer.length, []⟩
  | .insert text => some ⟨buffer.cursor, buffer.cursor, text⟩
  | .remove start stop => some ⟨min start buffer.length, min stop buffer.length, []⟩
  | .replace start stop text =>
      let first := min start buffer.length
      some ⟨first, max first (min stop buffer.length), text⟩
  | .deleteBefore => some ⟨buffer.cursor - 1, buffer.cursor, []⟩
  | .deleteAfter => some ⟨buffer.cursor, buffer.cursor + 1, []⟩
  | .kill .wordBefore => some ⟨buffer.shown.wordStartBefore buffer.cursor, buffer.cursor, []⟩
  | .kill .wordAfter => some ⟨buffer.cursor, buffer.shown.wordEndAfter buffer.cursor, []⟩
  | .kill .toLineStart => some ⟨0, buffer.cursor, []⟩
  | .kill .toLineEnd => some ⟨buffer.cursor, buffer.length, []⟩
  | .setLimit _ | .setValidator _ | .setEntries _ | .setCursor _ | .move _ | .older | .newer => none

/-- As much of the text as the limit leaves room for beside the span. -/
def accepted (buffer : LineBuffer) (edit : Replacement) : Text :=
  match buffer.limit? with
  | some limit => edit.text.take (limit - (buffer.length - (edit.stop - edit.start)))
  | none => edit.text

/-- The characters before the cursor that are not in the span. -/
def survivors (buffer : LineBuffer) (edit : Replacement) : Text :=
  let before := buffer.shown.take buffer.cursor
  before.take edit.start ++ before.drop edit.stop

/-- A removal keeps the cursor behind what is left before it, and every other edit puts it behind
the text that has gone in. -/
def cursorAfter (buffer : LineBuffer) (operation : Operation) (edit : Replacement)
    (inserted : Text) : Nat :=
  match operation with
  | .remove _ _ => (buffer.survivors edit).length
  | _ => edit.start + inserted.length

/-- The text on display after an operation that is no edit. A recall goes one text further as long
as there is one, and new entries bring the draft back. -/
def selectedAfter (buffer : LineBuffer) : Operation → Nat
  | .setEntries _ => 0
  | .older => min (buffer.selected + 1) buffer.entries.length
  | .newer => buffer.selected - 1
  | _ => buffer.selected

/-- The cursor after an operation that is no edit. Another text is shown with the cursor at its
end. -/
def placeAfter (buffer : LineBuffer) (operation : Operation) : Nat :=
  match operation with
  | .setEntries _ => min buffer.cursor buffer.draft.length
  | .setCursor offset => min offset buffer.length
  | .move motion => buffer.destination motion
  | .older | .newer =>
      if buffer.selectedAfter operation = buffer.selected then buffer.cursor
      else { buffer with selected := buffer.selectedAfter operation }.length
  | _ => buffer.cursor

/-- What the validator says about the draft. -/
def objection? (buffer : LineBuffer) : Option Text :=
  buffer.validator?.bind fun objects => objects buffer.draft

/-- Every edit asks the validator about the new draft, but a reset forgets what it has said. -/
def verdictAfter? (after : LineBuffer) : Operation → Option Text
  | .reset => none
  | _ => after.objection?

/-- The operation has put the text that fits in place of the span. -/
structure Replaces (buffer : LineBuffer) (operation : Operation) (edit : Replacement)
    (after : LineBuffer) : Prop where
  ordered : edit.start ≤ edit.stop
  inside : edit.stop ≤ buffer.length
  draft_eq : after.draft =
    buffer.shown.take edit.start ++ buffer.accepted edit ++ buffer.shown.drop edit.stop
  selected_eq : after.selected = 0
  cursor_eq : after.cursor = buffer.cursorAfter operation edit (buffer.accepted edit)
  error_eq : after.error? = after.verdictAfter? operation

/-- The operation has left the draft alone and chosen the text on display and the place in it. -/
structure Goes (buffer : LineBuffer) (operation : Operation) (after : LineBuffer) : Prop where
  draft_eq : after.draft = buffer.draft
  selected_eq : after.selected = buffer.selectedAfter operation
  cursor_eq : after.cursor = buffer.placeAfter operation

theorem length_survivors {buffer : LineBuffer} (inside : buffer.cursor ≤ buffer.length)
    (edit : Replacement) :
    (buffer.survivors edit).length =
      min edit.start buffer.cursor + (buffer.cursor - edit.stop) := by
  simp only [length] at inside
  simp only [survivors, List.length_append, List.length_take, List.length_drop,
    Nat.min_eq_left inside]

theorem accepted_eq_cut (buffer : LineBuffer) (edit : Replacement) :
    buffer.accepted edit = cut (buffer.room? (edit.stop - edit.start)) edit.text := by
  simp only [accepted, room?]
  cases buffer.limit? with
  | none => rfl
  | some limit => rfl

theorem accepted_isPrefix (buffer : LineBuffer) (edit : Replacement) :
    buffer.accepted edit <+: edit.text := by
  rw [accepted_eq_cut]
  exact cut_isPrefix _ edit.text

theorem accepted_nil (buffer : LineBuffer) (start stop : Nat) :
    buffer.accepted ⟨start, stop, []⟩ = [] :=
  List.prefix_nil.1 (buffer.accepted_isPrefix _)

/-- A removal inside the line is a write of nothing over the span. -/
theorem remove_eq_write {buffer : LineBuffer} (bounded : buffer.cursor ≤ buffer.length)
    {start stop : Nat} (shorter : start < stop) (inside : stop ≤ buffer.length) :
    buffer.remove start stop =
      (buffer.write start stop [] (buffer.survivors ⟨start, stop, []⟩).length,
        buffer.slice start stop) := by
  have first : min start buffer.length = start := Nat.min_eq_left (by omega)
  have last : min stop buffer.length = stop := Nat.min_eq_left inside
  have cursor : (if stop ≤ buffer.cursor then buffer.cursor - (stop - start)
      else min buffer.cursor start) = min start buffer.cursor + (buffer.cursor - stop) := by
    split <;> omega
  simp only [remove, first, last, Nat.not_le.2 shorter, if_false, cursor,
    length_survivors bounded ⟨start, stop, []⟩]

/-- A removed span has text. -/
theorem slice_ne_nil {buffer : LineBuffer} {start stop : Nat} (shorter : start < stop)
    (inside : stop ≤ buffer.length) : buffer.slice start stop ≠ [] := by
  refine List.ne_nil_of_length_pos ?_
  simp only [length] at inside
  rw [slice, Text.length_slice, Nat.min_eq_left inside]
  omega

/-- There is no text in a span that ends before it starts, or starts at the end of the line. -/
theorem slice_eq_nil {buffer : LineBuffer} {start stop : Nat}
    (nothing : min stop buffer.length ≤ start) : buffer.shown.slice start stop = [] := by
  have count : (buffer.shown.slice start stop).length = 0 := by
    rw [Text.length_slice]
    exact Nat.sub_eq_zero_of_le nothing
  exact List.length_eq_zero_iff.1 count

/-- The whole line is replaced by as much as the limit allows. -/
theorem accepted_whole (buffer : LineBuffer) (text : Text) :
    buffer.accepted ⟨0, buffer.length, text⟩ = cut buffer.limit? text := by
  have room : buffer.room? (buffer.length - 0) = buffer.limit? := by
    simp only [room?, Nat.sub_zero, Nat.sub_self]
    exact Option.map_id'
  rw [accepted_eq_cut, room]

section Edits

variable {buffer : LineBuffer} {operation : Operation}

theorem replaces_write {start stop cursor : Nat} {text : Text} (kept : operation ≠ .reset)
    (ordered : start ≤ stop) (inside : stop ≤ buffer.length)
    (place : cursor = buffer.cursorAfter operation ⟨start, stop, text⟩
      (buffer.accepted ⟨start, stop, text⟩)) :
    buffer.Replaces operation ⟨start, stop, text⟩
      (buffer.write start stop (buffer.accepted ⟨start, stop, text⟩) cursor) := by
  refine ⟨ordered, inside, rfl, rfl, place, ?_⟩
  cases operation with
  | reset => exact absurd rfl kept
  | _ => rfl

/-- Of the whole line nothing is left but the text that goes in. -/
theorem replaces_whole {text : Text} {after : LineBuffer} (selected_eq : after.selected = 0)
    (draft_eq : after.draft = buffer.accepted ⟨0, buffer.length, text⟩)
    (cursor_eq : after.cursor = buffer.cursorAfter operation ⟨0, buffer.length, text⟩
      (buffer.accepted ⟨0, buffer.length, text⟩))
    (error_eq : after.error? = after.verdictAfter? operation) :
    buffer.Replaces operation ⟨0, buffer.length, text⟩ after where
  ordered := Nat.zero_le _
  inside := Nat.le_refl _
  draft_eq := by
    rw [draft_eq, List.take_zero, List.nil_append, length, List.drop_length, List.append_nil]
  selected_eq := selected_eq
  cursor_eq := cursor_eq
  error_eq := error_eq

/-- A text that is taken out on one side of the cursor leaves the cursor at the gap. -/
theorem replaces_beside (kept : operation ≠ .reset) (bounded : buffer.cursor ≤ buffer.length)
    {start stop : Nat} (shorter : start < stop) (inside : stop ≤ buffer.length)
    (left : start ≤ buffer.cursor) (right : buffer.cursor ≤ stop)
    (place : buffer.cursorAfter operation ⟨start, stop, []⟩ [] = start) :
    buffer.Replaces operation ⟨start, stop, []⟩ (buffer.remove start stop).1 := by
  have cursor : (buffer.survivors ⟨start, stop, []⟩).length = start := by
    rw [length_survivors bounded]
    dsimp only
    omega
  rw [remove_eq_write bounded shorter inside, cursor]
  have written : buffer.Replaces operation ⟨start, stop, []⟩ _ :=
    replaces_write kept (Nat.le_of_lt shorter) inside (by rw [accepted_nil, place])
  rwa [accepted_nil] at written

/-- The edit would put nothing in place of nothing. -/
def Idle (buffer : LineBuffer) (edit : Replacement) : Prop :=
  buffer.shown.slice edit.start edit.stop = [] ∧ buffer.accepted edit = []

/-- A removal of an empty span is idle. -/
theorem idle_of_empty {start stop : Nat} (nothing : min stop buffer.length ≤ start) :
    buffer.Idle ⟨start, stop, []⟩ := ⟨slice_eq_nil nothing, accepted_nil buffer start stop⟩

/-- An edit either denies that anything has changed, and then there was nothing to do and nothing
has, or it replaces its span and gives back what it has taken out. -/
structure Edited (buffer : LineBuffer) (operation : Operation) (edit : Replacement) : Prop where
  idle : (buffer.report operation).deniesChange = true →
    buffer.perform operation = buffer ∧ buffer.Idle edit
  replaces : (buffer.report operation).deniesChange = false →
    buffer.Replaces operation edit (buffer.perform operation) ∧
      ∀ text, (buffer.report operation).text? = some text →
        text = buffer.shown.slice edit.start edit.stop

/-- An edit that gives nothing back. -/
theorem edited_of_replaces {edit : Replacement}
    (told : (buffer.report operation).deniesChange = false)
    (silent : (buffer.report operation).text? = none)
    (replaces : buffer.Replaces operation edit (buffer.perform operation)) :
    buffer.Edited operation edit where
  idle denied := by simp [told] at denied
  replaces _ := ⟨replaces, fun text given => by simp [silent] at given⟩

theorem edited_of_idle {edit : Replacement}
    (denied : (buffer.report operation).deniesChange = true)
    (same : buffer.perform operation = buffer) (idle : buffer.Idle edit) :
    buffer.Edited operation edit where
  idle _ := ⟨same, idle⟩
  replaces told := by simp [told] at denied

theorem edited_insert (bounded : buffer.cursor ≤ buffer.length) (text : Text) :
    buffer.Edited (.insert text) ⟨buffer.cursor, buffer.cursor, text⟩ := by
  have room : buffer.accepted ⟨buffer.cursor, buffer.cursor, text⟩ =
      cut (buffer.room? 0) text := by
    rw [accepted_eq_cut, Nat.sub_self]
  by_cases nothing : cut (buffer.room? 0) text = []
  · have same : buffer.insert text = (buffer, 0) := by
      simp only [LineBuffer.insert, nothing, if_true]
    exact edited_of_idle (by simp [report, same, Report.deniesChange])
      (by simp [LineBuffer.perform, same])
      ⟨slice_eq_nil (Nat.min_le_left _ _), room.trans nothing⟩
  · have written : buffer.insert text =
        (buffer.write buffer.cursor buffer.cursor (cut (buffer.room? 0) text)
            (buffer.cursor + (cut (buffer.room? 0) text).length),
          (cut (buffer.room? 0) text).length) := by
      simp only [LineBuffer.insert, nothing, if_false]
    refine edited_of_replaces ?_ rfl ?_
    · simp [report, written, Report.deniesChange, nothing]
    · rw [LineBuffer.perform, written, ← room]
      exact replaces_write (by simp) (Nat.le_refl _) bounded rfl

theorem edited_remove (bounded : buffer.cursor ≤ buffer.length) (start stop : Nat) :
    buffer.Edited (.remove start stop)
      ⟨min start buffer.length, min stop buffer.length, []⟩ := by
  by_cases shorter : min start buffer.length < min stop buffer.length
  · have inside : min stop buffer.length ≤ buffer.length := Nat.min_le_right _ _
    have clamped : buffer.remove start stop =
        buffer.remove (min start buffer.length) (min stop buffer.length) := by
      simp only [remove, Nat.min_assoc, Nat.min_self]
    have written := remove_eq_write bounded shorter inside
    have filled := slice_ne_nil shorter inside
    refine ⟨fun denied => ?_, fun _ => ⟨?_, fun text given => ?_⟩⟩
    · simp [report, clamped, written, Report.deniesChange, filled] at denied
    · have replaces : buffer.Replaces (.remove start stop)
          ⟨min start buffer.length, min stop buffer.length, []⟩ _ :=
        replaces_write (by simp) (Nat.le_of_lt shorter) inside rfl
      rw [accepted_nil] at replaces
      rw [LineBuffer.perform, clamped, written]
      exact replaces
    · simp only [report, clamped, written, Report.text?, Option.some.injEq] at given
      exact given.symm
  · have same : buffer.remove start stop = (buffer, []) := by
      simp only [remove, Nat.not_lt.1 shorter, if_true]
    exact edited_of_idle (by simp [report, same, Report.deniesChange])
      (by simp [LineBuffer.perform, same]) (idle_of_empty (by omega))

/-- A kill takes out the span on its side of the cursor, or finds it empty. -/
theorem edited_kill (bounded : buffer.cursor ≤ buffer.length) {kill : Kill} {start stop : Nat}
    (killed : Editor.killed? buffer kill = buffer.kill? start stop)
    (inside : stop ≤ buffer.length) (left : start ≤ buffer.cursor)
    (right : buffer.cursor ≤ stop) :
    buffer.Edited (.kill kill) ⟨start, stop, []⟩ := by
  by_cases shorter : start < stop
  · have taken : Editor.killed? buffer kill = some (buffer.remove start stop) := by
      rw [killed, kill?, if_neg (Nat.not_le.2 shorter)]
    refine ⟨fun denied => ?_, fun _ => ⟨?_, fun text given => ?_⟩⟩
    · simp [report, taken, Report.deniesChange] at denied
    · have replaces : buffer.Replaces (.kill kill) ⟨start, stop, []⟩
          (buffer.remove start stop).1 :=
        replaces_beside (by simp) bounded shorter inside left right
          rfl
      rw [LineBuffer.perform, taken]
      exact replaces
    · simp only [report, taken, Option.map_some, Report.text?, Option.some.injEq,
        remove_eq_write bounded shorter inside] at given
      exact given.symm
  · have none : Editor.killed? buffer kill = none := by
      rw [killed, kill?, if_pos (Nat.not_lt.1 shorter)]
    exact edited_of_idle (by simp [report, none, Report.deniesChange])
      (by simp [LineBuffer.perform, none]) (idle_of_empty (by omega))

theorem edited_deleteBefore (bounded : buffer.cursor ≤ buffer.length) :
    buffer.Edited .deleteBefore ⟨buffer.cursor - 1, buffer.cursor, []⟩ := by
  by_cases atStart : buffer.cursor = 0
  · have none : buffer.deleteBefore? = none := if_pos atStart
    exact edited_of_idle (by simp [report, none, Report.deniesChange])
      (by simp [LineBuffer.perform, none]) (idle_of_empty (by omega))
  · have taken : buffer.deleteBefore? =
        some (buffer.remove (buffer.cursor - 1) buffer.cursor).1 := if_neg atStart
    have replaces : buffer.Replaces .deleteBefore ⟨buffer.cursor - 1, buffer.cursor, []⟩
        (buffer.remove (buffer.cursor - 1) buffer.cursor).1 :=
      replaces_beside (by simp) bounded (by omega) bounded (by omega) (Nat.le_refl _)
        rfl
    refine edited_of_replaces (by simp [report, taken, Report.deniesChange]) rfl ?_
    rw [LineBuffer.perform, taken]
    exact replaces

theorem edited_deleteAfter (bounded : buffer.cursor ≤ buffer.length) :
    buffer.Edited .deleteAfter ⟨buffer.cursor, buffer.cursor + 1, []⟩ := by
  by_cases atEnd : buffer.length ≤ buffer.cursor
  · have none : buffer.deleteAfter? = none := if_pos atEnd
    exact edited_of_idle (by simp [report, none, Report.deniesChange])
      (by simp [LineBuffer.perform, none]) (idle_of_empty (by omega))
  · have taken : buffer.deleteAfter? =
        some (buffer.remove buffer.cursor (buffer.cursor + 1)).1 := if_neg atEnd
    have replaces : buffer.Replaces .deleteAfter ⟨buffer.cursor, buffer.cursor + 1, []⟩
        (buffer.remove buffer.cursor (buffer.cursor + 1)).1 :=
      replaces_beside (by simp) bounded (by omega) (by omega) (Nat.le_refl _) (by omega)
        rfl
    refine edited_of_replaces (by simp [report, taken, Report.deniesChange]) rfl ?_
    rw [LineBuffer.perform, taken]
    exact replaces

/-- Every edit of a line with the cursor inside does what it asks for. -/
theorem edited_of_edit? (bounded : buffer.cursor ≤ buffer.length) {edit : Replacement}
    (asked : buffer.edit? operation = some edit) : buffer.Edited operation edit := by
  cases operation with
  | setDraft text =>
      obtain rfl := Option.some.inj asked
      refine edited_of_replaces rfl rfl
        (replaces_whole rfl (accepted_whole buffer text).symm ?_ rfl)
      simp only [cursorAfter, accepted_whole, Nat.zero_add]
      rfl
  | reset =>
      obtain rfl := Option.some.inj asked
      refine edited_of_replaces rfl rfl
        (replaces_whole rfl (accepted_nil buffer _ _).symm ?_ rfl)
      simp only [cursorAfter, accepted_nil]
      rfl
  | insert text =>
      obtain rfl := Option.some.inj asked
      exact edited_insert bounded text
  | remove start stop =>
      obtain rfl := Option.some.inj asked
      exact edited_remove bounded start stop
  | replace start stop text =>
      obtain rfl := Option.some.inj asked
      refine edited_of_replaces rfl rfl ?_
      rw [LineBuffer.perform, LineBuffer.replace, ← accepted_eq_cut buffer ⟨_, _, text⟩]
      exact replaces_write (by simp) (Nat.le_max_left _ _) (by omega) rfl
  | deleteBefore =>
      obtain rfl := Option.some.inj asked
      exact edited_deleteBefore bounded
  | deleteAfter =>
      obtain rfl := Option.some.inj asked
      exact edited_deleteAfter bounded
  | kill kill =>
      cases kill with
      | wordBefore =>
          obtain rfl := Option.some.inj asked
          exact edited_kill bounded rfl bounded (Text.wordStartBefore_le _ _) (Nat.le_refl _)
      | wordAfter =>
          obtain rfl := Option.some.inj asked
          exact edited_kill bounded rfl (Text.wordEndAfter_le_length _ _) (Nat.le_refl _)
            (Text.le_wordEndAfter bounded)
      | toLineStart =>
          obtain rfl := Option.some.inj asked
          exact edited_kill bounded rfl bounded (Nat.zero_le _) (Nat.le_refl _)
      | toLineEnd =>
          obtain rfl := Option.some.inj asked
          exact edited_kill bounded rfl (Nat.le_refl _) (Nat.le_refl _) bounded
  | _ => simp [edit?] at asked

/-- What is no edit leaves the draft alone, and the error speaks of it as before, or of what the new
validator says. -/
theorem draft_perform_of_not_edit (other : buffer.edit? operation = none) :
    let after := buffer.perform operation
    after.draft = buffer.draft ∧
      (after.error? = after.objection? ∨
        after.error? = buffer.error? ∧ after.validator? = buffer.validator?) := by
  dsimp only
  cases operation with
  | setValidator => exact ⟨rfl, .inl rfl⟩
  | setLimit => exact ⟨rfl, .inr ⟨rfl, rfl⟩⟩
  | setEntries => exact ⟨rfl, .inr ⟨rfl, rfl⟩⟩
  | setCursor => exact ⟨rfl, .inr ⟨rfl, rfl⟩⟩
  | move motion =>
      obtain ⟨offset, moved⟩ := exists_getD_moved? buffer motion
      rw [LineBuffer.perform, moved]
      exact ⟨rfl, .inr ⟨rfl, rfl⟩⟩
  | older =>
      simp only [LineBuffer.perform, older?]
      split <;> exact ⟨rfl, .inr ⟨rfl, rfl⟩⟩
  | newer =>
      simp only [LineBuffer.perform, newer?]
      split <;> exact ⟨rfl, .inr ⟨rfl, rfl⟩⟩
  | kill kill => cases kill <;> simp [edit?] at other
  | _ => simp [edit?] at other

/-- What is no edit goes to its place. -/
theorem goes_of_not_edit (bounded : buffer.Bounded) (other : buffer.edit? operation = none) :
    buffer.Goes operation (buffer.perform operation) := by
  have known := bounded.selected_le
  cases operation with
  | setLimit => exact ⟨rfl, rfl, rfl⟩
  | setValidator => exact ⟨rfl, rfl, rfl⟩
  | setEntries => exact ⟨rfl, rfl, rfl⟩
  | setCursor => exact ⟨rfl, rfl, rfl⟩
  | move motion =>
      rw [perform_move bounded.cursor_le]
      exact ⟨rfl, rfl, rfl⟩
  | older =>
      by_cases oldest : buffer.entries.length ≤ buffer.selected
      · have none : buffer.older? = none := if_pos oldest
        have stays : buffer.selectedAfter .older = buffer.selected := by
          show min _ _ = _
          omega
        rw [LineBuffer.perform, none]
        exact ⟨rfl, stays.symm, (if_pos stays).symm⟩
      · have next : buffer.selectedAfter .older = buffer.selected + 1 := by
          show min _ _ = _
          omega
        have recalled : buffer.older? = some (buffer.select (buffer.selectedAfter .older)) := by
          rw [older?, if_neg oldest, next]
        rw [LineBuffer.perform, recalled]
        exact ⟨rfl, rfl, (if_neg (by omega)).symm⟩
  | newer =>
      by_cases newest : buffer.selected = 0
      · have none : buffer.newer? = none := if_pos newest
        have stays : buffer.selectedAfter .newer = buffer.selected := by
          rw [newest]
          exact congrArg (· - 1) newest
        rw [LineBuffer.perform, none]
        exact ⟨rfl, stays.symm, (if_pos stays).symm⟩
      · have next : buffer.selectedAfter .newer = buffer.selected - 1 := rfl
        have recalled : buffer.newer? = some (buffer.select (buffer.selectedAfter .newer)) :=
          if_neg newest
        rw [LineBuffer.perform, recalled]
        exact ⟨rfl, rfl, (if_neg (by omega)).symm⟩
  | kill kill => cases kill <;> simp [edit?] at other
  | _ => simp [edit?] at other

/-- An operation that denies a change makes none. -/
theorem perform_of_deniesChange (bounded : buffer.cursor ≤ buffer.length)
    (denied : (buffer.report operation).deniesChange = true) :
    buffer.perform operation = buffer := by
  cases asked : buffer.edit? operation with
  | some edit => exact ((edited_of_edit? bounded asked).idle denied).1
  | none =>
      cases operation with
      | move motion =>
          have stays : Editor.moved? buffer motion = none := by
            simpa [report, Report.deniesChange] using denied
          simp [LineBuffer.perform, stays]
      | older =>
          have stays : buffer.older? = none := by
            simpa [report, Report.deniesChange] using denied
          simp [LineBuffer.perform, stays]
      | newer =>
          have stays : buffer.newer? = none := by
            simpa [report, Report.deniesChange] using denied
          simp [LineBuffer.perform, stays]
      | setLimit => simp [report, Report.deniesChange] at denied
      | setValidator => simp [report, Report.deniesChange] at denied
      | setEntries => simp [report, Report.deniesChange] at denied
      | setCursor => simp [report, Report.deniesChange] at denied
      | kill kill => cases kill <;> simp [edit?] at asked
      | _ => simp [edit?] at asked

end Edits

end Promptline.LineBuffer
