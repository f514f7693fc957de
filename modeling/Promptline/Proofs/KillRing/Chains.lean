/-
This file says what a kill ring holds. Its entries are the texts of the chains that have been
killed, the newest in front, as far as there is room for them.
-/

import Mathlib.Data.List.Induction
import Mathlib.Data.List.SplitBy
import Promptline.KillRing

namespace Promptline

/-- A text that has been killed in one direction. -/
structure KilledText where
  direction : KillDirection
  text : Text
  deriving DecidableEq, Repr

namespace KilledText

def goesOn (first second : KilledText) : Bool := first.direction = second.direction

/-- The longest runs of kills in one direction. -/
def runs (kills : List KilledText) : List (List KilledText) := kills.splitBy goesOn

/-- Forward kills read from the first to the last, and backward kills from the last to the first. -/
def joined (kills : List KilledText) : Text :=
  match kills.head?.map direction with
  | some .backward => (kills.reverse.map text).flatten
  | _ => (kills.map text).flatten

/-- The last kills in one direction stand behind a kill in the other. -/
theorem exists_last_run (kills : List KilledText) (direction : KillDirection) :
    ∃ front run, kills = front ++ run ∧ (∀ kill ∈ run, kill.direction = direction) ∧
      ∀ last ∈ front.getLast?, last.direction ≠ direction := by
  induction kills using List.reverseRecOn with
  | nil => exact ⟨[], [], rfl, by simp, by simp⟩
  | append_singleton kills kill inductionHypothesis =>
      by_cases same : kill.direction = direction
      · obtain ⟨front, run, rfl, directed, turn⟩ := inductionHypothesis
        refine ⟨front, run ++ [kill], by simp, fun other member => ?_, turn⟩
        rcases List.mem_append.1 member with before | itself
        · exact directed other before
        · rwa [List.mem_singleton.1 itself]
      · refine ⟨kills ++ [kill], [], by simp, by simp, fun last ends => ?_⟩
        simp only [List.getLast?_concat, Option.mem_some_iff] at ends
        rwa [← ends]

theorem runs_of_turn {front run : List KilledText} {direction : KillDirection}
    (turn : ∀ last ∈ front.getLast?, last.direction ≠ direction)
    (directed : ∀ kill ∈ run, kill.direction = direction) (filled : run ≠ []) :
    runs (front ++ run) = runs front ++ [run] := by
  have linked : run.IsChain fun first second => goesOn first second = true := by
    refine List.Pairwise.isChain (List.pairwise_iff_forall_sublist.2 fun {first second} pair => ?_)
    have members := pair.subset
    simp [goesOn, directed first (members (by simp)), directed second (members (by simp))]
  rw [runs, List.splitBy_append, List.splitBy_of_isChain filled linked, runs]
  intro last ends next starts
  rw [goesOn, directed next (List.mem_of_mem_head? starts), decide_eq_false (turn last ends)]

@[simp] theorem joined_singleton (kill : KilledText) : joined [kill] = kill.text := by
  obtain ⟨direction, text⟩ := kill
  cases direction <;> simp [joined]

/-- A kill grows the text of its run. -/
theorem joined_append {run : List KilledText} {kill : KilledText}
    (directed : ∀ other ∈ run, other.direction = kill.direction) :
    joined (run ++ [kill]) = KillRing.grow kill.direction (joined run) kill.text := by
  obtain ⟨direction, text⟩ := kill
  cases run with
  | nil => cases direction <;> simp [joined, KillRing.grow]
  | cons first rest =>
      have same : first.direction = direction := directed first List.mem_cons_self
      cases direction <;> simp [joined, same, KillRing.grow]

theorem ne_nil_of_mem_runs {kills run : List KilledText} (listed : run ∈ runs kills) : run ≠ [] :=
  List.ne_nil_of_mem_splitBy listed

theorem mem_of_mem_runs {kills run : List KilledText} (listed : run ∈ runs kills)
    {kill : KilledText} (member : kill ∈ run) : kill ∈ kills := by
  rw [← List.flatten_splitBy goesOn kills]
  exact List.mem_flatten_of_mem listed member

theorem joined_ne_nil {run : List KilledText} {kill : KilledText} (member : kill ∈ run)
    (filled : kill.text ≠ []) : joined run ≠ [] := by
  have told : kill.text ∈ run.map text := List.mem_map_of_mem member
  simp only [joined]
  split
  · simp only [ne_eq, List.flatten_eq_nil_iff, not_forall]
    exact ⟨kill.text, by simpa using told, filled⟩
  · simp only [ne_eq, List.flatten_eq_nil_iff, not_forall]
    exact ⟨kill.text, told, filled⟩

end KilledText

/-- An operation on a kill ring. -/
inductive RingOperation where
  | record (direction : KillDirection) (text : Text)
  | breakChain
  | yank
  | yankPop
  | setYanked (start stop : Nat)
  | clearYanked
  deriving DecidableEq, Repr

namespace RingOperation

/-- A kill without a text is none. -/
def killed? : RingOperation → Option KilledText
  | record direction text => if text = [] then none else some ⟨direction, text⟩
  | _ => none

def breaks (operation : RingOperation) : Bool := operation = breakChain

/-- The kills from the start or a break up to the next break or the end. -/
def stretches (operations : List RingOperation) : List (List KilledText) :=
  (operations.splitOnP breaks).map (List.filterMap killed?)

/-- A chain is a longest run of kills in one direction without a break in it. -/
def chains (operations : List RingOperation) : List (List KilledText) :=
  (stretches operations).flatMap KilledText.runs

theorem stretches_cons (operation : RingOperation) (operations : List RingOperation) :
    stretches (operation :: operations) =
      if breaks operation then [] :: stretches operations
      else (stretches operations).modifyHead (operation.killed?.toList ++ ·) := by
  simp only [stretches, List.splitOnP_cons_eq_if_modifyHead]
  split
  · rfl
  · cases List.splitOnP breaks operations with
    | nil => rfl
    | cons stretch others => cases killed : operation.killed? <;> simp [killed]

/-- An operation that breaks nothing goes into the last stretch. -/
theorem exists_last_stretch (operations : List RingOperation) :
    ∃ earlier last, stretches operations = earlier ++ [last] ∧
      ∀ operation, breaks operation = false →
        stretches (operations ++ [operation]) =
          earlier ++ [last ++ operation.killed?.toList] := by
  induction operations with
  | nil =>
      refine ⟨[], [], rfl, fun operation kept => ?_⟩
      rw [List.nil_append, stretches_cons, if_neg (by simp [kept])]
      simp [stretches]
  | cons first rest inductionHypothesis =>
      obtain ⟨earlier, last, whole, more⟩ := inductionHypothesis
      cases cut : breaks first with
      | true =>
          refine ⟨[] :: earlier, last, ?_, fun operation kept => ?_⟩
          · rw [stretches_cons, if_pos cut, whole, List.cons_append]
          · rw [List.cons_append, stretches_cons, if_pos cut, more operation kept,
              List.cons_append]
      | false =>
          cases earlier with
          | nil =>
              refine ⟨[], first.killed?.toList ++ last, ?_, fun operation kept => ?_⟩
              · simp [stretches_cons, cut, whole]
              · simp [stretches_cons, cut, more operation kept]
          | cons stretch others =>
              refine ⟨(first.killed?.toList ++ stretch) :: others, last, ?_,
                fun operation kept => ?_⟩
              · simp [stretches_cons, cut, whole]
              · simp [stretches_cons, cut, more operation kept]

theorem stretches_append_break (operations : List RingOperation) :
    stretches (operations ++ [breakChain]) = stretches operations ++ [[]] := by
  rw [stretches, List.splitOnP_append_cons _ _ rfl, List.map_append]
  rfl

/-- The direction of the last kill, unless a break stands behind it. -/
def direction? (operations : List RingOperation) : Option KillDirection :=
  ((stretches operations).getLast?.bind List.getLast?).map KilledText.direction

/-- An operation that kills nothing and breaks nothing is not seen. -/
theorem stretches_append_idle (operations : List RingOperation) {operation : RingOperation}
    (kept : breaks operation = false) (idle : operation.killed? = none) :
    stretches (operations ++ [operation]) = stretches operations := by
  obtain ⟨earlier, last, whole, more⟩ := exists_last_stretch operations
  rw [more operation kept, idle, Option.toList_none, List.append_nil, whole]

theorem chains_append_break (operations : List RingOperation) :
    chains (operations ++ [breakChain]) = chains operations := by
  rw [chains, stretches_append_break, List.flatMap_append]
  exact List.append_nil _

theorem direction?_append_break (operations : List RingOperation) :
    direction? (operations ++ [breakChain]) = none := by
  rw [direction?, stretches_append_break, List.getLast?_concat]
  rfl

/-- A kill goes into the last chain if it goes on in its direction, and starts a chain otherwise. -/
theorem chains_append_record (operations : List RingOperation) (direction : KillDirection)
    {text : Text} (filled : text ≠ []) :
    let after := operations ++ [record direction text]
    direction? after = some direction ∧
      (direction? operations ≠ some direction ∧
          chains after = chains operations ++ [[⟨direction, text⟩]] ∨
        direction? operations = some direction ∧
          ∃ earlier run, (∀ kill ∈ run, kill.direction = direction) ∧
            chains operations = earlier ++ [run] ∧
            chains after = earlier ++ [run ++ [⟨direction, text⟩]]) := by
  obtain ⟨earlier, last, whole, more⟩ := exists_last_stretch operations
  obtain ⟨front, run, rfl, directed, turn⟩ := KilledText.exists_last_run last direction
  have killed : (record direction text).killed?.toList = [⟨direction, text⟩] := by
    simp [killed?, filled]
  have grown := more (record direction text) rfl
  have directed' : ∀ kill ∈ run ++ [⟨direction, text⟩], kill.direction = direction := by
    simpa [or_imp, forall_and] using directed
  have after : chains (operations ++ [record direction text]) =
      earlier.flatMap KilledText.runs ++ KilledText.runs front ++ [run ++ [⟨direction, text⟩]] := by
    rw [chains, grown, killed, List.append_assoc, List.flatMap_append, List.flatMap_singleton,
      KilledText.runs_of_turn turn directed' (by simp), List.append_assoc]
  refine ⟨by simp [direction?, grown, killed], ?_⟩
  -- The kill starts a run if the last stretch does not end with kills in its direction.
  by_cases begun : run = []
  · subst begun
    refine .inl ⟨?_, ?_⟩
    · rw [direction?, whole]
      simp only [List.append_nil, List.getLast?_concat, Option.bind_some, ne_eq,
        Option.map_eq_some_iff, not_exists, not_and]
      exact turn
    · rw [after, chains, whole]
      simp
  · refine .inr ⟨?_, earlier.flatMap KilledText.runs ++ KilledText.runs front, run, directed, ?_,
      after⟩
    · obtain ⟨kill, ends⟩ := Option.ne_none_iff_exists'.1 (mt List.getLast?_eq_none_iff.1 begun)
      rw [direction?, whole, List.getLast?_concat, Option.bind_some,
        List.getLast?_append_of_ne_nil _ begun, ends, Option.map_some,
        directed kill (List.mem_of_getLast? ends)]
    · rw [chains, whole, List.flatMap_append, List.flatMap_singleton,
        KilledText.runs_of_turn turn directed begun, List.append_assoc]

/-- A chain has kills, and every kill a text. -/
theorem joined_ne_nil_of_mem_chains {operations : List RingOperation} {chain : List KilledText}
    (listed : chain ∈ chains operations) : KilledText.joined chain ≠ [] := by
  obtain ⟨kills, counted, running⟩ := List.mem_flatMap.1 listed
  obtain ⟨stretch, _, rfl⟩ := List.mem_map.1 counted
  obtain ⟨kill, member⟩ := List.exists_mem_of_ne_nil _ (KilledText.ne_nil_of_mem_runs running)
  obtain ⟨operation, _, killed⟩ :=
    List.mem_filterMap.1 (KilledText.mem_of_mem_runs running member)
  refine KilledText.joined_ne_nil member ?_
  cases operation with
  | record direction text =>
      simp only [killed?, Option.ite_none_left_eq_some, Option.some.injEq] at killed
      rw [← killed.2]
      exact killed.1
  | _ => simp [killed?] at killed

end RingOperation

namespace KillRing

open RingOperation

/-- A yank that finds nothing leaves the ring as it is. -/
def perform (ring : KillRing) : RingOperation → KillRing
  | .record direction text => ring.record direction text
  | .breakChain => ring.breakChain
  | .yank => (ring.yank?.map Prod.fst).getD ring
  | .yankPop => (ring.yankPop?.map Prod.fst).getD ring
  | .setYanked start stop => ring.setYanked start stop
  | .clearYanked => ring.clearYanked

def run (ring : KillRing) (operations : List RingOperation) : KillRing :=
  operations.foldl perform ring

/-- An operation that kills nothing and breaks nothing keeps the entries and the chain. -/
theorem perform_idle (ring : KillRing) {operation : RingOperation}
    (kept : breaks operation = false) (idle : operation.killed? = none) :
    ∃ rotation yanked?, ring.perform operation = { ring with rotation, yanked? } := by
  cases operation with
  | record direction text =>
      have nothing : text = [] := by simpa [killed?] using idle
      subst nothing
      exact ⟨ring.rotation, ring.yanked?, rfl⟩
  | breakChain => exact absurd kept.symm Bool.false_ne_true
  | yank =>
      simp only [perform]
      cases yanked : ring.yank? with
      | none => exact ⟨ring.rotation, ring.yanked?, rfl⟩
      | some answer =>
          obtain ⟨rotation, turned⟩ := yank?_turns yanked
          exact ⟨rotation, ring.yanked?, turned⟩
  | yankPop =>
      simp only [perform]
      cases popped : ring.yankPop? with
      | none => exact ⟨ring.rotation, ring.yanked?, rfl⟩
      | some answer =>
          obtain ⟨rotation, turned⟩ := yankPop?_turns popped
          exact ⟨rotation, ring.yanked?, turned⟩
  | setYanked start stop => exact ⟨ring.rotation, some (start, stop), rfl⟩
  | clearYanked => exact ⟨ring.rotation, none, rfl⟩

/-- A ring with room for some entries holds the last chains of the operations, and it knows in which
direction the last one goes on. -/
structure Holds (capacity : Nat) (operations : List RingOperation) (ring : KillRing) : Prop where
  capacity_eq : ring.capacity = max capacity 1
  entries_eq : ring.entries =
    ((chains operations).reverse.map KilledText.joined).take ring.capacity
  chain?_eq : ring.chain? = direction? operations

theorem holds_ofCapacity (capacity : Nat) : Holds capacity [] (ofCapacity capacity) where
  capacity_eq := rfl
  entries_eq := List.take_nil.symm
  chain?_eq := rfl

theorem Holds.exists_room {capacity : Nat} {operations : List RingOperation} {ring : KillRing}
    (holds : Holds capacity operations ring) : ∃ room, ring.capacity = room + 1 := by
  refine Nat.exists_eq_add_one.2 ?_
  rw [holds.capacity_eq]
  exact Nat.lt_of_lt_of_le Nat.zero_lt_one (Nat.le_max_right capacity 1)

theorem Holds.idle {capacity : Nat} {operations : List RingOperation} {ring : KillRing}
    (holds : Holds capacity operations ring) {operation : RingOperation}
    (kept : breaks operation = false) (idle : operation.killed? = none) :
    Holds capacity (operations ++ [operation]) (ring.perform operation) := by
  obtain ⟨rotation, yanked?, performed⟩ := ring.perform_idle kept idle
  have same := stretches_append_idle operations kept idle
  rw [performed]
  refine ⟨holds.capacity_eq, ?_, ?_⟩
  · rw [chains, same]
    exact holds.entries_eq
  · rw [direction?, same]
    exact holds.chain?_eq

theorem Holds.breakChain {capacity : Nat} {operations : List RingOperation} {ring : KillRing}
    (holds : Holds capacity operations ring) :
    Holds capacity (operations ++ [.breakChain]) ring.breakChain := by
  refine ⟨holds.capacity_eq, ?_, (direction?_append_break operations).symm⟩
  rw [chains_append_break]
  exact holds.entries_eq

theorem Holds.record {capacity : Nat} {operations : List RingOperation} {ring : KillRing}
    (holds : Holds capacity operations ring) (direction : KillDirection) {text : Text}
    (filled : text ≠ []) :
    Holds capacity (operations ++ [.record direction text]) (ring.record direction text) := by
  obtain ⟨room, counted⟩ := holds.exists_room
  obtain ⟨going, grown⟩ := chains_append_record operations direction filled
  have entries := holds.entries_eq
  refine ⟨(capacity_record _ _ _).trans holds.capacity_eq, ?_,
    (chain?_record filled).trans going.symm⟩
  rw [capacity_record]
  rcases grown with ⟨apart, chained⟩ | ⟨same, earlier, run, directed, before, chained⟩
  · rw [entries_record_of_not_chain filled (by rwa [holds.chain?_eq]), entries, chained,
      List.reverse_concat, List.map_cons, KilledText.joined_singleton, counted,
      List.take_succ_cons, List.take_succ_cons, List.take_take, Nat.min_eq_left (Nat.le_succ room)]
  · rw [before, List.reverse_concat, List.map_cons, counted, List.take_succ_cons] at entries
    rw [entries_record_of_chain filled (by rw [holds.chain?_eq, same]) entries, chained,
      List.reverse_concat, List.map_cons, counted, List.take_succ_cons,
      KilledText.joined_append directed]

theorem Holds.perform {capacity : Nat} {operations : List RingOperation} {ring : KillRing}
    (holds : Holds capacity operations ring) (operation : RingOperation) :
    Holds capacity (operations ++ [operation]) (ring.perform operation) := by
  cases operation with
  | record direction text =>
      by_cases filled : text = []
      · exact holds.idle rfl (by simp [killed?, filled])
      · exact holds.record direction filled
  | breakChain => exact holds.breakChain
  | _ => exact holds.idle rfl rfl

theorem Holds.run {capacity : Nat} {before : List RingOperation} {ring : KillRing}
    (holds : Holds capacity before ring) (operations : List RingOperation) :
    Holds capacity (before ++ operations) (ring.run operations) := by
  induction operations generalizing ring before with
  | nil => rwa [List.append_nil]
  | cons operation rest inductionHypothesis =>
      have later := inductionHypothesis (holds.perform operation)
      rwa [List.append_assoc] at later

/-- Whatever a ring has seen, its entries are the chains of kills, the newest in front and as many
as there is room for. None of them is empty, and the newest chain is always there. -/
theorem entries_run (capacity : Nat) (operations : List RingOperation) :
    let ring := (ofCapacity capacity).run operations
    ring.entries = ((chains operations).reverse.map KilledText.joined).take (max capacity 1) ∧
      [] ∉ ring.entries ∧
      ring.entries.head? = (chains operations).getLast?.map KilledText.joined := by
  intro ring
  have holds : Holds capacity operations ring := (holds_ofCapacity capacity).run operations
  have entries := holds.entries_eq
  refine ⟨holds.capacity_eq ▸ entries, fun listed => ?_, ?_⟩
  · rw [entries] at listed
    obtain ⟨chain, member, nothing⟩ := List.mem_map.1 (List.mem_of_mem_take listed)
    exact joined_ne_nil_of_mem_chains (List.mem_reverse.1 member) nothing
  · obtain ⟨room, counted⟩ := holds.exists_room
    rw [entries, counted, List.head?_take, if_neg (Nat.succ_ne_zero room), List.head?_map,
      List.head?_reverse]

/-- A yank inside a chain does not end it, a break does, and the oldest entry gives way. -/
example :
    let text := Text.of
    ((ofCapacity 2).run [.record .forward (text "x"), .breakChain, .record .forward (text "a"),
      .record .backward (text "c"), .yank, .record .backward [], .record .backward (text "b"),
      .yankPop]).entries = [text "bc", text "a"] := by decide

end KillRing

end Promptline
