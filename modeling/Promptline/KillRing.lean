/-
This file defines the ring of killed texts. Kills of one direction in a row grow one entry, and a
yank can be exchanged for older entries.
-/

import Promptline.Text.Basic

namespace Promptline

/-- A forward kill takes text behind the cursor, a backward kill text before it. -/
inductive KillDirection where
  | forward
  | backward
  deriving DecidableEq, Repr

structure KillRing where
  /-- The newest entry comes first. -/
  entries : List Text
  capacity : Nat
  /-- The entry that the last yank has put into the line. -/
  rotation : Nat
  /-- The direction of the kill that the last command was, if it was one. -/
  chain? : Option KillDirection
  /-- The span that the last yank has filled, if the last command was a yank. -/
  yanked? : Option (Nat × Nat)
  deriving DecidableEq, Repr

namespace KillRing

/-- A ring always has room for one entry. -/
def ofCapacity (capacity : Nat) : KillRing := ⟨[], max capacity 1, 0, none, none⟩

/-- A forward kill goes behind the text killed before it, a backward kill in front of it. -/
def grow (direction : KillDirection) (entry text : Text) : Text :=
  match direction with
  | .forward => entry ++ text
  | .backward => text ++ entry

/-- A text grows the newest entry inside a chain and opens a new entry outside. -/
def record (ring : KillRing) (direction : KillDirection) (text : Text) : KillRing :=
  if text = [] then ring
  else
    let entries :=
      match ring.entries, decide (ring.chain? = some direction) with
      | newest :: older, true => grow direction newest text :: older
      | entries, _ => (text :: entries).take ring.capacity
    { ring with entries, rotation := 0, chain? := some direction, yanked? := none }

@[simp] theorem record_nil (ring : KillRing) (direction : KillDirection) :
    ring.record direction [] = ring := rfl

@[simp] theorem capacity_record (ring : KillRing) (direction : KillDirection) (text : Text) :
    (ring.record direction text).capacity = ring.capacity := by
  unfold record
  split <;> rfl

theorem chain?_record {ring : KillRing} {direction : KillDirection} {text : Text}
    (killed : text ≠ []) : (ring.record direction text).chain? = some direction := by
  simp only [record, if_neg killed]

/-- Inside a chain the number of entries stays. -/
theorem entries_record_of_chain {ring : KillRing} {direction : KillDirection} {text newest : Text}
    {older : List Text} (killed : text ≠ []) (chained : ring.chain? = some direction)
    (held : ring.entries = newest :: older) :
    (ring.record direction text).entries = grow direction newest text :: older := by
  simp [record, killed, chained, held]

/-- Outside a chain the oldest entry gives way when the ring is full. -/
theorem entries_record_of_not_chain {ring : KillRing} {direction : KillDirection} {text : Text}
    (killed : text ≠ []) (apart : ring.chain? ≠ some direction) :
    (ring.record direction text).entries = (text :: ring.entries).take ring.capacity := by
  simp [record, killed, apart]

/-- Any other command ends the chain. -/
def breakChain (ring : KillRing) : KillRing := { ring with chain? := none }

/-- A yank takes the newest entry. -/
def yank? (ring : KillRing) : Option (KillRing × Text) :=
  match ring.entries with
  | [] => none
  | newest :: _ => some ({ ring with rotation := 0 }, newest)

/-- A yank changes the place in the ring only. -/
theorem yank?_turns {ring turned : KillRing} {text : Text}
    (yanked : ring.yank? = some (turned, text)) : ∃ rotation, turned = { ring with rotation } := by
  simp only [yank?] at yanked
  split at yanked
  · simp at yanked
  · obtain ⟨rfl, _⟩ := Prod.ext_iff.1 (Option.some.inj yanked)
    exact ⟨0, rfl⟩

def setYanked (ring : KillRing) (start stop : Nat) : KillRing :=
  { ring with yanked? := some (start, stop) }

def clearYanked (ring : KillRing) : KillRing := { ring with yanked? := none }

/-- Right after a yank the next older entry takes the place of the yanked span. -/
def yankPop? (ring : KillRing) : Option (KillRing × (Nat × Nat) × Text) :=
  match ring.yanked? with
  | none => none
  | some span =>
      if ring.entries.length ≤ 1 then none
      else
        let rotation := (ring.rotation + 1) % ring.entries.length
        some ({ ring with rotation }, span, ring.entries.getD rotation [])

/-- A yank of an older entry changes the place in the ring only. -/
theorem yankPop?_turns {ring turned : KillRing} {span : Nat × Nat} {text : Text}
    (popped : ring.yankPop? = some (turned, span, text)) :
    ∃ rotation, turned = { ring with rotation } := by
  simp only [yankPop?] at popped
  split at popped
  · simp at popped
  · split at popped
    · simp at popped
    · obtain ⟨rfl, _⟩ := Prod.ext_iff.1 (Option.some.inj popped)
      exact ⟨_, rfl⟩

end KillRing

end Promptline
