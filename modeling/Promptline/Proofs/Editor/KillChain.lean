/-
This file follows a chain of kills in one direction. The kills take one text out of the line piece
by piece, the ring puts the pieces together, and a yank brings the whole text back.
-/

import Promptline.Proofs.Editor.Yank

namespace Promptline

namespace KillRing

@[simp] theorem grow_nil_right (direction : KillDirection) (text : Text) :
    grow direction text [] = text := by
  cases direction with
  | forward => exact List.append_nil text
  | backward => rfl

@[simp] theorem grow_nil_left (direction : KillDirection) (text : Text) :
    grow direction [] text = text := by
  cases direction with
  | forward => rfl
  | backward => exact List.append_nil text

theorem length_grow (direction : KillDirection) (entry text : Text) :
    (grow direction entry text).length = entry.length + text.length := by
  cases direction with
  | forward => exact List.length_append
  | backward => exact List.length_append.trans (Nat.add_comm _ _)

/-- No piece gets lost. -/
theorem foldl_grow_ne_nil (direction : KillDirection) {pieces : List Text} (text : Text)
    (filled : text ≠ [] ∨ ∃ piece ∈ pieces, piece ≠ []) :
    pieces.foldl (grow direction) text ≠ [] := by
  induction pieces generalizing text with
  | nil => simpa using filled
  | cons piece rest inductionHypothesis =>
      refine inductionHypothesis (grow direction text piece) ?_
      have longer := length_grow direction text piece
      rw [← List.length_pos_iff, longer, Nat.add_pos_iff_pos_or_pos, List.length_pos_iff,
        List.length_pos_iff]
      rcases filled with started | ⟨other, member, more⟩
      · exact .inl (.inl started)
      · rcases List.mem_cons.1 member with rfl | later
        · exact .inl (.inr more)
        · exact .inr ⟨other, later, more⟩

/-- Since the ring before it a chain has put its text in front. Without a text the chain has not
begun. -/
structure Collects (before : KillRing) (direction : KillDirection) (text : Text)
    (ring : KillRing) : Prop where
  capacity_eq : ring.capacity = before.capacity
  apart : text = [] → ring.chain? = none ∧ ring.entries = before.entries
  front : text ≠ [] → ring.chain? = some direction ∧
    ring.entries = (text :: before.entries).take before.capacity

/-- Another piece of the chain grows the text in front. -/
theorem Collects.record {before ring : KillRing} {direction : KillDirection} {text piece : Text}
    (collects : before.Collects direction text ring) (roomy : 0 < before.capacity)
    (killed : piece ≠ []) :
    before.Collects direction (grow direction text piece) (ring.record direction piece) := by
  have longer : grow direction text piece ≠ [] := by
    rw [← List.length_pos_iff, length_grow]
    have counted := List.length_pos_iff.2 killed
    omega
  refine ⟨(capacity_record _ _ _).trans collects.capacity_eq, fun empty => absurd empty longer,
    fun _ => ⟨chain?_record killed, ?_⟩⟩
  -- The first piece opens an entry, and every later one grows it.
  by_cases begun : text = []
  · obtain ⟨broken, held⟩ := collects.apart begun
    rw [entries_record_of_not_chain killed (by simp [broken]), held, collects.capacity_eq, begun,
      grow_nil_left]
  · obtain ⟨chained, held⟩ := collects.front begun
    obtain ⟨room, counted⟩ := Nat.exists_eq_succ_of_ne_zero (Nat.ne_of_gt roomy)
    rw [counted, List.take_succ_cons] at held ⊢
    exact entries_record_of_chain killed chained held

end KillRing

namespace Editor

/-- A kill key takes its text out of the line and hands it to the ring. -/
theorem apply_kill {editor : Editor} (editing : editor.mode = .edit) {key : Key} {kill : Kill}
    (bound : key.editAction? = some (.kill kill)) (source : Source) :
    let after := (editor.apply source (.key key)).1
    after.mode = .edit ∧ after.buffer = (taken editor.buffer kill).1 ∧
      after.ring =
        editor.ring.clearYanked.record (killDirection kill) (taken editor.buffer kill).2 := by
  dsimp only
  rw [apply_of_editing editing bound]
  simp only [perform, handle, kill_eq_taken]
  exact ⟨editing, rfl, rfl⟩

/-- The text that an event kills. -/
def killedText (editor : Editor) : Event → Text
  | .key key =>
      match key.action? editor.mode with
      | some (.kill kill) => (taken editor.buffer kill).2
      | _ => []
  | _ => []

theorem killedText_of_kill {editor : Editor} (editing : editor.mode = .edit) {key : Key}
    {kill : Kill} (bound : key.editAction? = some (.kill kill)) :
    editor.killedText (.key key) = (taken editor.buffer kill).2 := by
  have found : key.action? editor.mode = some (.kill kill) := by
    rw [editing]
    exact bound
  simp only [killedText, found]

theorem killedText_of_waits {editor : Editor} {event : Event}
    (waits : event.Waits editor.mode) : editor.killedText event = [] := by
  cases waits with
  | unbound free => simp only [killedText, free]
  | resize size => rfl

/-- The texts that some events kill, one after the other. -/
def killedTexts (editor : Editor) : List (Source × Event) → List Text
  | [] => []
  | (source, event) :: rest =>
      editor.killedText event :: (editor.apply source event).1.killedTexts rest

/-- The event kills in the direction, finds nothing to kill or leaves the editor to itself. -/
inductive Chains (editor : Editor) (direction : KillDirection) : Event → Prop where
  | kill {key : Key} {kill : Kill} (bound : key.editAction? = some (.kill kill))
      (directed : killDirection kill = direction ∨ killed? editor.buffer kill = none) :
      Chains editor direction (.key key)
  | waits {event : Event} (waits : event.Waits .edit) : Chains editor direction event

/-- Every one of some events does so when its turn comes. -/
inductive ChainsAll (direction : KillDirection) : Editor → List (Source × Event) → Prop where
  | nil (editor : Editor) : ChainsAll direction editor []
  | cons {editor : Editor} {source : Source} {event : Event} {rest : List (Source × Event)}
      (chains : editor.Chains direction event)
      (all : ChainsAll direction (editor.apply source event).1 rest) :
      ChainsAll direction editor ((source, event) :: rest)

/-- The kills since the start have taken the text out of the line and put it into the ring. -/
structure Chained (start : Editor) (direction : KillDirection) (text : Text) (after : Editor) :
    Prop where
  reachable : after.Reachable
  editing : after.mode = .edit
  lost : start.buffer.Loses direction after.buffer text
  collected : start.ring.Collects direction text after.ring

theorem chained_start {editor : Editor} (reachable : editor.Reachable)
    (editing : editor.mode = .edit) (broken : editor.ring.chain? = none)
    (direction : KillDirection) : Chained editor direction [] editor where
  reachable := reachable
  editing := editing
  lost := LineBuffer.loses_nil reachable.line.bounded.cursor_le direction
  collected := ⟨rfl, fun _ => ⟨broken, rfl⟩, fun filled => absurd rfl filled⟩

/-- A kill adds what it takes to the text. -/
theorem Chained.kill {start editor : Editor} {direction : KillDirection} {text : Text}
    (chained : Chained start direction text editor) {key : Key} {kill : Kill}
    (bound : key.editAction? = some (.kill kill))
    (directed : killDirection kill = direction ∨ killed? editor.buffer kill = none)
    (source : Source) :
    Chained start direction (KillRing.grow direction text (taken editor.buffer kill).2)
      (editor.apply source (.key key)).1 := by
  have reachable := chained.reachable.apply source (.key key)
  obtain ⟨editing, line, ring⟩ := apply_kill chained.editing bound source
  have kept : start.ring.Collects direction text editor.ring.clearYanked :=
    ⟨chained.collected.capacity_eq, chained.collected.apart, chained.collected.front⟩
  cases killed : killed? editor.buffer kill with
  | none =>
      simp only [taken, killed, Option.getD_none] at line ring ⊢
      rw [KillRing.grow_nil_right]
      rw [KillRing.record_nil] at ring
      exact ⟨reachable, editing, line ▸ chained.lost, ring ▸ kept⟩
  | some answer =>
      obtain ⟨shorter, piece⟩ := answer
      obtain rfl := directed.resolve_right (by simp [killed])
      obtain ⟨filled, loses⟩ :=
        LineBuffer.loses_of_killed? chained.reachable.line.bounded.cursor_le killed
      simp only [taken, killed, Option.getD_some] at line ring ⊢
      refine ⟨reachable, editing, ?_, ?_⟩
      · rw [line]
        exact chained.lost.trans loses
      · rw [ring]
        have roomy := chained.reachable.consistent.roomy
        rw [chained.collected.capacity_eq] at roomy
        exact kept.record roomy filled

theorem Chained.apply {start editor : Editor} {direction : KillDirection} {text : Text}
    (chained : Chained start direction text editor) {event : Event}
    (chains : editor.Chains direction event) (source : Source) :
    Chained start direction (KillRing.grow direction text (editor.killedText event))
      (editor.apply source event).1 := by
  cases chains with
  | kill bound directed =>
      rw [killedText_of_kill chained.editing bound]
      exact chained.kill bound directed source
  | waits waits =>
      rw [← chained.editing] at waits
      obtain ⟨size, resized⟩ := apply_of_waits waits source
      rw [killedText_of_waits waits, KillRing.grow_nil_right]
      have reachable := chained.reachable.apply source event
      rw [resized] at reachable ⊢
      exact ⟨reachable, chained.editing, chained.lost, chained.collected⟩

/-- A whole run of kills adds up to one text. -/
theorem Chained.run {start editor : Editor} {direction : KillDirection} {text : Text}
    (chained : Chained start direction text editor) {events : List (Source × Event)}
    (chains : ChainsAll direction editor events) :
    Chained start direction
      ((editor.killedTexts events).foldl (KillRing.grow direction) text) (editor.run events) := by
  induction chains generalizing text with
  | nil editor => exact chained
  | cons chains _ inductionHypothesis => exact inductionHypothesis (chained.apply chains _)

/-- Kills of one direction in a row take one text out of the line, the ring has it in front, and a
yank brings the line back. The cursor is where it was after backward kills and behind the text after
forward kills. -/
theorem shown_yank_of_chainsAll {editor : Editor} (reachable : editor.Reachable)
    (editing : editor.mode = .edit) (broken : editor.ring.chain? = none)
    (fits : ∀ limit, editor.buffer.limit? = some limit → editor.buffer.length ≤ limit)
    {direction : KillDirection} {events : List (Source × Event)}
    (chains : ChainsAll direction editor events)
    (kills : ∃ text ∈ editor.killedTexts events, text ≠ []) {key : Key}
    (bound : key.editAction? = some .yank) (source : Source) :
    let killed := editor.run events
    let text := (editor.killedTexts events).foldl (KillRing.grow direction) []
    let after := (killed.apply source (.key key)).1
    (∃ head tail, editor.buffer.shown = head ++ text ++ tail ∧
        editor.buffer.cursor = direction.cursor head text ∧
        killed.buffer.shown = head ++ tail ∧ killed.buffer.cursor = head.length) ∧
      killed.ring.entries = (text :: editor.ring.entries).take editor.ring.capacity ∧
      killed.ring.entries.head? = some text ∧
      after.buffer.shown = editor.buffer.shown ∧
      (direction = .backward → after.buffer.cursor = editor.buffer.cursor) ∧
      (direction = .forward → after.buffer.cursor = editor.buffer.cursor + text.length) := by
  intro killed text after
  have chained : Chained editor direction text killed :=
    (chained_start reachable editing broken direction).run chains
  have filled : text ≠ [] := KillRing.foldl_grow_ne_nil direction [] (.inr kills)
  obtain ⟨_, held⟩ := chained.collected.front filled
  obtain ⟨room, counted⟩ :=
    Nat.exists_eq_succ_of_ne_zero (Nat.ne_of_gt reachable.consistent.roomy)
  have front : killed.ring.entries = text :: editor.ring.entries.take room := by
    rw [held, counted, List.take_succ_cons]
  obtain ⟨_, line, _⟩ := apply_yank chained.editing bound source front
  obtain ⟨shown, back, forth⟩ := chained.lost.insert fits
  obtain ⟨head, tail, whole, start, gap⟩ := chained.lost.parts
  rw [← line] at shown back forth
  refine ⟨⟨head, tail, whole, start, ?_, ?_⟩, held, ?_, shown, back, forth⟩
  · rw [gap.shown_eq, List.append_nil]
  · rw [gap.cursor_eq, List.append_nil]
  · rw [front, List.head?_cons]

/-- A recalled command of full length is killed in two pieces, with a kill of nothing in between,
and comes back. -/
theorem shown_yank_of_recalled_command :
    let source := Source.onEmptyLine (Text.of "x")
    let editor := (small (some 3) [Text.of "a b"]).run [(source, .key (.plain .up))]
    let events := [(source, .key (.control 'w')), (source, .resize ⟨9, 9⟩),
      (source, .key (.control 'k')), (source, .key (.control 'u'))]
    let killed := editor.run events
    let after := (killed.apply source (.key (.control 'y'))).1
    editor.Reachable ∧ editor.mode = .edit ∧ editor.ring.chain? = none ∧
      ChainsAll .backward editor events ∧
      editor.killedTexts events = [Text.of "b", [], [], Text.of "a "] ∧
      killed.ring.entries.head? = some (Text.of "a b") ∧
      after.buffer.shown = Text.of "a b" ∧ after.buffer.cursor = 3 := by
  intro source editor events
  have reachable : editor.Reachable := (reachable_small _ _).run _
  have editing : editor.mode = .edit := by decide
  have broken : editor.ring.chain? = none := by decide
  have fits : ∀ limit, editor.buffer.limit? = some limit → editor.buffer.length ≤ limit := by
    intro limit bounded
    obtain rfl := Option.some.inj bounded
    decide
  have chains : ChainsAll .backward editor events := by
    refine .cons (.kill rfl (.inl rfl)) (.cons (.waits (.resize _)) (.cons ?_ ?_))
    · exact .kill rfl (.inr (Option.isNone_iff_eq_none.1 (by decide)))
    · exact .cons (.kill rfl (.inl rfl)) (.nil _)
  have texts : editor.killedTexts events = [Text.of "b", [], [], Text.of "a "] := by decide
  have kills : ∃ text ∈ editor.killedTexts events, text ≠ [] := by
    rw [texts]
    exact ⟨_, List.mem_cons_self, by decide⟩
  have whole : (editor.killedTexts events).foldl (KillRing.grow .backward) [] = Text.of "a b" := by
    rw [texts]
    decide
  obtain ⟨_, _, front, shown, cursor, _⟩ :=
    shown_yank_of_chainsAll reachable editing broken fits chains kills
      (show (Key.control 'y').editAction? = some .yank from rfl) source
  rw [whole] at front
  exact ⟨reachable, editing, broken, chains, texts, front, shown, cursor rfl⟩

end Editor

end Promptline
