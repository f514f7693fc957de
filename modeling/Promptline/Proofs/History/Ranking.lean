/-
This file says which command is suggested behind a draft. Of the commands that go on from the draft
it is the one that occurs most often, and of several the one that comes first. It is also the best
of all counted commands, in whatever order they are looked at.
-/

import Mathlib.Data.List.AList
import Mathlib.Data.List.Induction
import Promptline.History.Suggestion

namespace Promptline.Suggestion

/-- The command goes on from the draft. -/
def Extends (draft command : Text) : Prop := draft <+: command ∧ command ≠ draft

theorem extends?_iff {draft command : Text} :
    extends? draft command = true ↔ Extends draft command := by
  rw [extends?, Bool.and_eq_true, Text.startsWith_iff, decide_eq_true_eq, Extends]
  refine and_congr_right fun starts => ?_
  constructor
  · rintro longer rfl
    exact Nat.lt_irrefl _ longer
  · intro other
    refine Nat.lt_of_le_of_ne starts.length_le fun same => ?_
    exact other (starts.eq_of_length same).symm

theorem Extends.eq_append {draft command : Text} (goesOn : Extends draft command) :
    draft ++ command.drop draft.length = command := by
  obtain ⟨⟨rest, rfl⟩, _⟩ := goesOn
  rw [List.drop_left]

/-- A command that goes on from a longer draft goes on from a shorter one. -/
theorem Extends.of_append {draft typed command : Text} (goesOn : Extends (draft ++ typed) command) :
    Extends draft command := by
  obtain ⟨⟨rest, rfl⟩, other⟩ := goesOn
  refine ⟨⟨typed ++ rest, (List.append_assoc _ _ _).symm⟩, fun same => other ?_⟩
  rw [List.append_assoc, List.append_right_eq_self] at same
  rw [(List.append_eq_nil_iff.1 same).2, List.append_nil]

/-- What counts of a command is how often it occurs and at which place first. -/
structure Rank where
  count : Nat
  place : Nat
  deriving DecidableEq, Repr

namespace Rank

def of (commands : List Text) (command : Text) : Rank :=
  ⟨commands.count command, commands.idxOf command⟩

/-- More occurrences are better, and of as many the first one is. -/
def Beats (first second : Rank) : Prop :=
  second.count < first.count ∨ second.count = first.count ∧ first.place < second.place

instance (first second : Rank) : Decidable (Beats first second) :=
  inferInstanceAs (Decidable (_ ∨ _))

theorem Beats.asymm {first second : Rank} (one : first.Beats second) : ¬ second.Beats first := by
  simp only [Beats] at *
  omega

/-- Two commands of a list have different places, so one of them beats the other. -/
theorem beats_of_not_beats {commands : List Text} {first second : Text}
    (listed : first ∈ commands) (other : first ≠ second)
    (unbeaten : ¬ (of commands second).Beats (of commands first)) :
    (of commands first).Beats (of commands second) := by
  have apart : commands.idxOf first ≠ commands.idxOf second :=
    fun same => other ((List.idxOf_inj listed).1 same)
  simp only [Beats, of] at *
  omega

theorem idxOf_filter_lt_iff (kept : Text → Bool) (commands : List Text) {first second : Text}
    (one : kept first = true) (other : kept second = true) :
    (commands.filter kept).idxOf first < (commands.filter kept).idxOf second ↔
      commands.idxOf first < commands.idxOf second := by
  induction commands with
  | nil => simp
  | cons command commands inductionHypothesis =>
      by_cases same : kept command = true
      · rw [List.filter_cons_of_pos same]
        by_cases isFirst : command = first
        · by_cases isSecond : command = second
          · simp [← isFirst, ← isSecond]
          · simp [isFirst, List.idxOf_cons_ne _ (isFirst ▸ isSecond)]
        · by_cases isSecond : command = second
          · simp [isSecond]
          · simp [List.idxOf_cons_ne _ isFirst, List.idxOf_cons_ne _ isSecond, inductionHypothesis]
      · have apartFirst : command ≠ first := fun equal => same (equal ▸ one)
        have apartSecond : command ≠ second := fun equal => same (equal ▸ other)
        rw [List.filter_cons_of_neg same, inductionHypothesis, List.idxOf_cons_ne _ apartFirst,
          List.idxOf_cons_ne _ apartSecond, Nat.succ_lt_succ_iff]

/-- Commands that are left out change neither the counts nor the order of the others. -/
theorem beats_filter_iff (kept : Text → Bool) (commands : List Text) {first second : Text}
    (one : kept first = true) (other : kept second = true) :
    (of (commands.filter kept) first).Beats (of (commands.filter kept) second) ↔
      (of commands first).Beats (of commands second) := by
  simp only [Beats, of, List.count_filter one, List.count_filter other,
    idxOf_filter_lt_iff kept commands one other]

end Rank

/-- The command is the best one that goes on from the draft. -/
structure Favourite (draft : Text) (commands : List Text) (command : Text) : Prop where
  listed : command ∈ commands
  goesOn : Extends draft command
  best : ∀ other ∈ commands, Extends draft other → other ≠ command →
    (Rank.of commands command).Beats (Rank.of commands other)

theorem Favourite.unique {draft first second : Text} {commands : List Text}
    (one : Favourite draft commands first) (other : Favourite draft commands second) :
    first = second := by
  by_contra apart
  have better := one.best second other.listed other.goesOn (Ne.symm apart)
  exact better.asymm (other.best first one.listed one.goesOn apart)

/-- What goes on from a longer draft is the best for it, too. -/
theorem Favourite.append {draft typed rest : Text} {commands : List Text}
    (favourite : Favourite draft commands (draft ++ (typed ++ rest))) (more : rest ≠ []) :
    Favourite (draft ++ typed) commands (draft ++ typed ++ rest) where
  listed := by
    rw [List.append_assoc]
    exact favourite.listed
  goesOn := ⟨List.prefix_append _ _, fun same => more (List.append_right_eq_self.1 same)⟩
  best other listed goesOn apart := by
    rw [List.append_assoc] at apart ⊢
    exact favourite.best other listed goesOn.of_append apart

section Leading

variable {commands : List Text}

/-- The command beats all others of those that have been seen. -/
structure Leads (commands seen : List Text) (best : Text) : Prop where
  member : best ∈ seen
  beats : ∀ other ∈ seen, other ≠ best → (Rank.of commands best).Beats (Rank.of commands other)

/-- The next command takes the lead only with more occurrences, since it is not the earlier one. -/
theorem Leads.step {seen : List Text} {best command : Text} (leads : Leads commands seen best)
    (starts : seen ++ [command] <+: commands) :
    Leads commands (seen ++ [command])
      (if commands.count best < commands.count command then command else best) := by
  obtain ⟨later, rfl⟩ := starts
  split
  next more =>
    refine ⟨List.mem_concat_self, fun other member apart => .inl ?_⟩
    rcases List.mem_append.1 member with member | last
    · by_cases same : other = best
      · rwa [same]
      · have beaten := leads.beats other member same
        simp only [Rank.Beats, Rank.of] at beaten ⊢
        omega
    · exact absurd (List.mem_singleton.1 last) apart
  next fewer =>
    refine ⟨List.mem_append_left _ leads.member, fun other member apart => ?_⟩
    by_cases known : other ∈ seen
    · exact leads.beats other known apart
    · obtain rfl : other = command :=
        List.mem_singleton.1 ((List.mem_append.1 member).resolve_left known)
      have first := List.idxOf_lt_length_of_mem leads.member
      have places :
          (seen ++ [other] ++ later).idxOf best < (seen ++ [other] ++ later).idxOf other := by
        rw [List.append_assoc, List.idxOf_append_of_mem leads.member,
          List.idxOf_append_of_notMem known]
        omega
      simp only [Rank.Beats, Rank.of]
      omega

/-- The command in the lead behind one more command. -/
def leading? (commands : List Text) (best? : Option Text) (command : Text) : Option Text :=
  best?.elim (some command) fun best =>
    some (if commands.count best < commands.count command then command else best)

theorem mostFrequent?_eq_foldl (commands : List Text) :
    mostFrequent? commands = commands.foldl (leading? commands) none := by
  rw [mostFrequent?]
  congr
  funext best? command
  cases best? with
  | none => rfl
  | some best => exact (apply_ite some _ _ _).symm

theorem foldl_leading?_eq_none_iff {seen : List Text} :
    seen.foldl (leading? commands) none = none ↔ seen = [] := by
  refine ⟨fun nothing => ?_, fun empty => by rw [empty, List.foldl_nil]⟩
  rcases List.eq_nil_or_concat' seen with empty | ⟨earlier, last, rfl⟩
  · exact empty
  · rw [List.foldl_concat] at nothing
    cases lead : earlier.foldl (leading? commands) none <;> simp [lead, leading?] at nothing

theorem mostFrequent?_eq_none_iff : mostFrequent? commands = none ↔ commands = [] := by
  rw [mostFrequent?_eq_foldl, foldl_leading?_eq_none_iff]

theorem Leads.run {seen : List Text} (starts : seen <+: commands) {best : Text}
    (same : seen.foldl (leading? commands) none = some best) : Leads commands seen best := by
  induction seen using List.reverseRecOn generalizing best with
  | nil => exact absurd same (by simp)
  | append_singleton seen command inductionHypothesis =>
      rw [List.foldl_concat] at same
      cases before : seen.foldl (leading? commands) none with
      | none =>
          rw [before] at same
          obtain rfl := Option.some.inj same
          rw [foldl_leading?_eq_none_iff.1 before]
          refine ⟨List.mem_singleton_self _, fun other member apart => ?_⟩
          exact absurd (List.mem_singleton.1 member) apart
      | some lead =>
          rw [before] at same
          obtain rfl := Option.some.inj same
          exact (inductionHypothesis ((List.prefix_append _ _).trans starts) before).step starts

theorem leads_mostFrequent? {found : Text} (chosen : mostFrequent? commands = some found) :
    Leads commands commands found := by
  rw [mostFrequent?_eq_foldl] at chosen
  exact Leads.run (List.prefix_refl _) chosen

end Leading

/-- The command whose rest is suggested is the favourite. -/
theorem favourite_mostFrequent? {draft found : Text} {commands : List Text}
    (chosen : mostFrequent? (commands.filter (extends? draft)) = some found) :
    Favourite draft commands found := by
  obtain ⟨member, beats⟩ := leads_mostFrequent? chosen
  obtain ⟨listed, goesOn⟩ := List.mem_filter.1 member
  refine ⟨listed, extends?_iff.1 goesOn, fun other known longer apart => ?_⟩
  have longer := extends?_iff.2 longer
  exact (Rank.beats_filter_iff _ _ goesOn longer).1
    (beats other (List.mem_filter.2 ⟨known, longer⟩) apart)

theorem rest?_eq_none_iff {draft : Text} {commands : List Text} :
    rest? draft commands = none ↔ draft = [] ∨ ∀ command ∈ commands, ¬ Extends draft command := by
  rw [rest?]
  split
  next empty => exact iff_of_true rfl (.inl empty)
  next filled =>
    rw [Option.map_eq_none_iff, mostFrequent?_eq_none_iff, List.filter_eq_nil_iff,
      or_iff_right filled]
    simp only [extends?_iff]

theorem rest?_eq_some_iff {draft rest : Text} {commands : List Text} :
    rest? draft commands = some rest ↔ draft ≠ [] ∧ Favourite draft commands (draft ++ rest) := by
  constructor
  · intro suggested
    rw [rest?] at suggested
    split at suggested
    · exact absurd suggested (by simp)
    next filled =>
      obtain ⟨command, chosen, rfl⟩ := Option.map_eq_some_iff.1 suggested
      have favourite := favourite_mostFrequent? chosen
      rw [favourite.goesOn.eq_append]
      exact ⟨filled, favourite⟩
  · rintro ⟨filled, favourite⟩
    cases suggested : rest? draft commands with
    | none =>
        have nothing := (rest?_eq_none_iff.1 suggested).resolve_left filled
        exact absurd favourite.goesOn (nothing _ favourite.listed)
    | some other =>
        rw [rest?, if_neg filled] at suggested
        obtain ⟨command, chosen, rfl⟩ := Option.map_eq_some_iff.1 suggested
        rw [(favourite_mostFrequent? chosen).unique favourite, List.drop_left]

section Counting

/-- The counted commands, each with its rank among the commands so far. -/
abbrev Tally := AList fun _ : Text => Rank

/-- A new command begins with its place. -/
def Tally.record (tally : Tally) (command : Text) (place : Nat) : Tally :=
  let known := (tally.lookup command).getD ⟨0, place⟩
  tally.insert command { known with count := known.count + 1 }

/-- The commands that go on from the draft are counted one after the other. -/
def tally (draft : Text) (commands : List Text) : Tally :=
  commands.zipIdx.foldl (fun tally (command, place) =>
    if extends? draft command then tally.record command place else tally) ∅

/-- The entries are compared one after the other, and the next one stays unless it is beaten. -/
def winner? (entries : List (Σ _ : Text, Rank)) : Option (Σ _ : Text, Rank) :=
  entries.foldl (fun best? entry =>
    some (best?.elim entry fun best => if best.2.Beats entry.2 then best else entry)) none

theorem tally_concat (draft : Text) (commands : List Text) (command : Text) :
    tally draft (commands ++ [command]) =
      if extends? draft command then (tally draft commands).record command commands.length
      else tally draft commands := by
  rw [tally, List.zipIdx_append, List.foldl_append, Nat.zero_add, tally]
  rfl

/-- A further command changes no rank but its own. -/
theorem Rank.of_concat {commands : List Text} {command : Text} (listed : command ∈ commands)
    {last : Text} (apart : command ≠ last) :
    of (commands ++ [last]) command = of commands command := by
  have new : command ∉ [last] := mt List.mem_singleton.1 apart
  rw [of, List.count_append, List.idxOf_append_of_mem listed, List.count_eq_zero_of_not_mem new,
    Nat.add_zero, of]

theorem Tally.lookup_record {tally : Tally} {commands : List Text} {command : Text}
    (counted : tally.lookup command =
      if command ∈ commands then some (Rank.of commands command) else none) :
    (tally.record command commands.length).lookup command =
      some (Rank.of (commands ++ [command]) command) := by
  have once : (commands ++ [command]).count command = commands.count command + 1 := by
    rw [List.count_append, List.count_singleton_self]
  rw [record, AList.lookup_insert, counted]
  by_cases known : command ∈ commands
  · rw [if_pos known, Option.getD_some, Rank.of, Rank.of, once, List.idxOf_append_of_mem known]
  · rw [if_neg known, Option.getD_none, Rank.of, once, List.count_eq_zero_of_not_mem known,
      List.idxOf_append_of_notMem known, List.idxOf_cons_self, Nat.zero_add, Nat.add_zero]

/-- The tally has the rank of every command that goes on from the draft, and no other. -/
theorem lookup_tally (draft : Text) (commands : List Text) (command : Text) :
    (tally draft commands).lookup command =
      if extends? draft command then
        if command ∈ commands then some (Rank.of commands command) else none
      else none := by
  induction commands using List.reverseRecOn with
  | nil => simp [tally]
  | append_singleton commands last inductionHypothesis =>
      rw [tally_concat]
      by_cases same : command = last
      · subst same
        cases goesOn : extends? draft command with
        | true =>
            rw [goesOn, if_pos rfl] at inductionHypothesis
            rw [if_pos rfl, if_pos rfl, Tally.lookup_record inductionHypothesis,
              if_pos List.mem_concat_self]
        | false =>
            rw [goesOn] at inductionHypothesis
            exact inductionHypothesis
      · have kept : (if extends? draft last then (tally draft commands).record last commands.length
            else tally draft commands).lookup command = (tally draft commands).lookup command := by
          split
          · rw [Tally.record, AList.lookup_insert_ne same]
          · rfl
        rw [kept, inductionHypothesis]
        by_cases known : command ∈ commands
        · simp [known, Rank.of_concat known same]
        · simp [known, same]

theorem mem_tally_iff {draft command : Text} {commands : List Text} {rank : Rank} :
    ⟨command, rank⟩ ∈ (tally draft commands).entries ↔
      command ∈ commands ∧ Extends draft command ∧ rank = Rank.of commands command := by
  rw [← AList.mem_lookup_iff, lookup_tally, Option.mem_def, ← extends?_iff]
  grind

theorem winner?_concat (entries : List (Σ _ : Text, Rank)) (entry : Σ _ : Text, Rank) :
    winner? (entries ++ [entry]) = some ((winner? entries).elim entry fun best =>
      if best.2.Beats entry.2 then best else entry) := by
  rw [winner?, List.foldl_concat, winner?]

theorem winner?_eq_none_iff {entries : List (Σ _ : Text, Rank)} :
    winner? entries = none ↔ entries = [] := by
  rcases List.eq_nil_or_concat' entries with rfl | ⟨earlier, last, rfl⟩
  · exact iff_of_true rfl rfl
  · rw [winner?_concat]
    simp

/-- No entry beats the winner. -/
theorem winner?_unbeaten {entries : List (Σ _ : Text, Rank)} {best : Σ _ : Text, Rank}
    (chosen : winner? entries = some best) :
    best ∈ entries ∧ ∀ entry ∈ entries, ¬ entry.2.Beats best.2 := by
  induction entries using List.reverseRecOn generalizing best with
  | nil => exact absurd chosen (by simp [winner?])
  | append_singleton entries entry inductionHypothesis =>
      rw [winner?_concat] at chosen
      cases before : winner? entries with
      | none =>
          rw [before] at chosen
          obtain rfl := Option.some.inj chosen
          rw [winner?_eq_none_iff.1 before]
          simp [Rank.Beats]
      | some lead =>
          obtain ⟨member, unbeaten⟩ := inductionHypothesis before
          rw [before, Option.elim_some] at chosen
          obtain rfl := Option.some.inj chosen
          split
          next beaten =>
            refine ⟨List.mem_append_left _ member, List.forall_mem_append.2 ⟨unbeaten, ?_⟩⟩
            exact List.forall_mem_singleton.2 beaten.asymm
          next stays =>
            refine ⟨List.mem_concat_self, List.forall_mem_append.2 ⟨fun other known => ?_, ?_⟩⟩
            · have worse := unbeaten other known
              simp only [Rank.Beats] at worse stays ⊢
              omega
            · exact List.forall_mem_singleton.2 (by simp [Rank.Beats])

/-- Whatever the order of the entries, the winner is the favourite. -/
theorem favourite_winner? {draft : Text} {commands : List Text}
    {entries : List (Σ _ : Text, Rank)} (order : entries.Perm (tally draft commands).entries)
    {best : Σ _ : Text, Rank} (chosen : winner? entries = some best) :
    Favourite draft commands best.1 := by
  obtain ⟨command, rank⟩ := best
  obtain ⟨member, unbeaten⟩ := winner?_unbeaten chosen
  obtain ⟨listed, goesOn, rfl⟩ := mem_tally_iff.1 (order.mem_iff.1 member)
  refine ⟨listed, goesOn, fun other known longer apart => ?_⟩
  have counted : ⟨other, Rank.of commands other⟩ ∈ entries :=
    order.mem_iff.2 (mem_tally_iff.2 ⟨known, longer, rfl⟩)
  exact Rank.beats_of_not_beats listed (Ne.symm apart) (unbeaten _ counted)

theorem rest?_eq_winner? {draft : Text} (filled : draft ≠ []) {commands : List Text}
    {entries : List (Σ _ : Text, Rank)} (order : entries.Perm (tally draft commands).entries) :
    rest? draft commands = (winner? entries).map fun best => best.1.drop draft.length := by
  cases chosen : winner? entries with
  | none =>
      refine rest?_eq_none_iff.2 (.inr fun command listed goesOn => ?_)
      have counted := order.mem_iff.2 (mem_tally_iff.2 ⟨listed, goesOn, rfl⟩)
      rw [winner?_eq_none_iff.1 chosen] at counted
      exact absurd counted List.not_mem_nil
  | some best =>
      have favourite := favourite_winner? order chosen
      refine rest?_eq_some_iff.2 ⟨filled, ?_⟩
      rw [favourite.goesOn.eq_append]
      exact favourite

end Counting

/-- The suggestion is the rest of the favourite, which is the best of the counted commands in
whatever order they are compared. As long as it is typed along, its rest stays suggested. -/
theorem rest?_of_favourite (draft : Text) (commands : List Text) :
    (rest? draft commands = none ↔
        draft = [] ∨ ∀ command ∈ commands, ¬ Extends draft command) ∧
      (∀ rest, rest? draft commands = some rest ↔
        draft ≠ [] ∧ Favourite draft commands (draft ++ rest)) ∧
      (∀ entries : List (Σ _ : Text, Rank), entries.Perm (tally draft commands).entries →
        rest? draft commands = if draft = [] then none
          else (winner? entries).map fun best => best.1.drop draft.length) ∧
      ∀ typed rest, rest ≠ [] → rest? draft commands = some (typed ++ rest) →
        rest? (draft ++ typed) commands = some rest := by
  refine ⟨rest?_eq_none_iff, fun _ => rest?_eq_some_iff, fun entries order => ?_, ?_⟩
  · split
    next empty => exact rest?_eq_none_iff.2 (.inl empty)
    next filled => exact rest?_eq_winner? filled order
  · intro typed rest more suggested
    obtain ⟨filled, favourite⟩ := rest?_eq_some_iff.1 suggested
    exact rest?_eq_some_iff.2 ⟨List.append_ne_nil_of_left_ne_nil filled typed,
      favourite.append more⟩

example : rest? (Text.of "git st")
    [Text.of "git status", Text.of "git stash", Text.of "git st", Text.of "git stash",
      Text.of "git status"] = some (Text.of "atus") := by decide

end Promptline.Suggestion
