/-
This file says which rows a history search lists and in which order. A row stands for the newest
item of a command that passes the filter and contains the query, and nothing else decides.
-/

import Promptline.Proofs.History.Occurrence
import Promptline.Proofs.History.Reachable
import Promptline.Proofs.Text.Order

namespace Promptline

namespace HistorySearch

/-- The items behind the rows of a search, with their indices. -/
def listed (search : HistorySearch) : List (HistoryItem × Nat) :=
  search.eligible.filter fun (item, _) => Fuzzy.Occurs search.query item.command

/-- The item at the index is the newest of its command, passes the filter and contains the query. -/
def Lists (search : HistorySearch) (index : Nat) : Prop :=
  ∃ item, search.items[index]? = some item ∧
    (∀ newer < index, ∀ other, search.items[newer]? = some other →
      other.command ≠ item.command) ∧
    (search.filter = .directory → item.directory = search.directory) ∧
    Fuzzy.Occurs search.query item.command

theorem newest_sublist (seen : List Text) (items : List (HistoryItem × Nat)) :
    (newest seen items).Sublist items := by
  induction items generalizing seen with
  | nil => exact .slnil
  | cons pair rest inductionHypothesis =>
      simp only [newest]
      split
      · exact (inductionHypothesis seen).cons _
      · exact (inductionHypothesis _).cons_cons _

/-- The first item of each command that has not been seen is kept. -/
theorem mem_newest_zipIdx {seen : List Text} {items : List HistoryItem} {start index : Nat}
    {item : HistoryItem} :
    (item, index) ∈ newest seen (items.zipIdx start) ↔
      ∃ offset, index = start + offset ∧ items[offset]? = some item ∧ item.command ∉ seen ∧
        ∀ newer < offset, ∀ other, items[newer]? = some other →
          other.command ≠ item.command := by
  induction items generalizing seen start with
  | nil => simp [newest]
  | cons first rest inductionHypothesis =>
      -- The rest is looked at with the first command seen, whether it was new or not.
      have later {seen : List Text} (known : first.command ∈ seen) :
          (item, index) ∈ newest seen (rest.zipIdx (start + 1)) ↔
            ∃ offset, index = start + (offset + 1) ∧ rest[offset]? = some item ∧
              item.command ∉ seen ∧ ∀ newer < offset + 1, ∀ other,
                (first :: rest)[newer]? = some other → other.command ≠ item.command := by
        rw [inductionHypothesis]
        constructor
        · rintro ⟨offset, rfl, there, unseen, alone⟩
          refine ⟨offset, by omega, there, unseen, fun newer earlier other held => ?_⟩
          cases newer with
          | zero =>
              obtain rfl := Option.some.inj held
              exact fun same => unseen (same ▸ known)
          | succ newer => exact alone newer (by omega) other held
        · rintro ⟨offset, rfl, there, unseen, alone⟩
          exact ⟨offset, by omega, there, unseen, fun newer earlier other held =>
            alone (newer + 1) (by omega) other held⟩
      rw [List.zipIdx_cons, newest]
      split
      next known =>
        have member : first.command ∈ seen := by simpa using known
        rw [later member]
        constructor
        · rintro ⟨offset, found⟩
          exact ⟨offset + 1, found⟩
        · rintro ⟨offset, same, there, unseen, alone⟩
          cases offset with
          | zero =>
              obtain rfl := Option.some.inj there
              exact absurd member unseen
          | succ offset => exact ⟨offset, same, there, unseen, alone⟩
      next new =>
        have fresh : first.command ∉ seen := by simpa using new
        rw [List.mem_cons, later List.mem_cons_self]
        constructor
        · rintro (same | ⟨offset, same, there, unseen, alone⟩)
          · obtain ⟨rfl, rfl⟩ := Prod.ext_iff.1 same
            exact ⟨0, rfl, rfl, fresh, fun newer earlier => absurd earlier (Nat.not_lt_zero _)⟩
          · exact ⟨offset + 1, same, there, fun member => unseen (List.mem_cons_of_mem _ member),
              alone⟩
        · rintro ⟨offset, rfl, there, unseen, alone⟩
          cases offset with
          | zero =>
              obtain rfl := Option.some.inj there
              exact .inl rfl
          | succ offset =>
              refine .inr ⟨offset, rfl, there, ?_, alone⟩
              rw [List.mem_cons, not_or]
              exact ⟨(alone 0 (Nat.succ_pos _) first rfl).symm, unseen⟩

/-- No command is kept twice. -/
theorem newest_distinct (seen : List Text) (items : List (HistoryItem × Nat)) :
    (∀ pair ∈ newest seen items, pair.1.command ∉ seen) ∧
      (newest seen items).Pairwise fun first second =>
        first.1.command ≠ second.1.command := by
  induction items generalizing seen with
  | nil => simp [newest]
  | cons pair rest inductionHypothesis =>
      simp only [newest]
      split
      · exact inductionHypothesis seen
      next new =>
        obtain ⟨unseen, distinct⟩ := inductionHypothesis (pair.1.command :: seen)
        simp only [List.mem_cons, not_or] at unseen
        refine ⟨?_, .cons (fun other member => Ne.symm (unseen other member).1) distinct⟩
        rw [List.forall_mem_cons]
        exact ⟨by simpa using new, fun other member => (unseen other member).2⟩

theorem mem_listed_iff {search : HistorySearch} {item : HistoryItem} {index : Nat} :
    (item, index) ∈ search.listed ↔
      search.items[index]? = some item ∧
        (∀ newer < index, ∀ other, search.items[newer]? = some other →
          other.command ≠ item.command) ∧
        (search.filter = .directory → item.directory = search.directory) ∧
        Fuzzy.Occurs search.query item.command := by
  have passes : search.filter.passes search.directory item = true ↔
      (search.filter = .directory → item.directory = search.directory) := by
    cases search.filter <;> simp [HistoryFilter.passes]
  simp only [listed, eligible, List.mem_filter, mem_newest_zipIdx, List.not_mem_nil,
    not_false_eq_true, true_and, Nat.zero_add, exists_eq_left', decide_eq_true_eq, passes]
  tauto

theorem lists_iff {search : HistorySearch} {index : Nat} :
    search.Lists index ↔ ∃ item, (item, index) ∈ search.listed := by
  simp only [Lists, mem_listed_iff]

theorem listed_sublist (search : HistorySearch) :
    search.listed.Sublist (newest [] search.items.zipIdx) :=
  List.filter_sublist.trans List.filter_sublist

/-- The rows go from the newest item to the oldest. -/
theorem listed_ascending (search : HistorySearch) :
    search.listed.Pairwise fun first second => first.2 < second.2 := by
  have ascending : search.items.zipIdx.Pairwise fun first second => first.2 < second.2 := by
    rw [← List.pairwise_map, List.zipIdx_map_snd]
    exact List.pairwise_lt_range'
  exact ascending.sublist (search.listed_sublist.trans (newest_sublist _ _))

/-- No two rows have the same command. -/
theorem listed_distinct (search : HistorySearch) :
    search.listed.Pairwise fun first second => first.1.command ≠ second.1.command :=
  (newest_distinct [] _).2.sublist search.listed_sublist

end HistorySearch

namespace Fuzzy

/-- The cells have no say in whether the pattern occurs. -/
theorem scoreWith_isSome_iff (cells : Array Cell) (text pattern : Text) :
    (scoreWith cells text pattern).2.isSome = true ↔ Occurs pattern text := by
  have searched := leftmost?_isSome_iff (isCaseSensitive pattern) 0 pattern text
  simp only [scoreWith]
  split
  next nothing =>
    rw [nothing] at searched
    exact searched
  next found =>
    rw [found] at searched
    exact searched

end Fuzzy

/-- The part of a match that does not depend on its score. -/
def HistoryMatch.row (found : HistoryMatch) : Nat × Text := (found.index, found.command)

/-- The score and the positions are what the matcher gives the command, whatever it has seen. -/
def HistoryMatch.Scored (query : Text) (found : HistoryMatch) : Prop :=
  ∃ cells, (Fuzzy.scoreWith cells found.command query).2 = some ⟨found.score, found.positions⟩

namespace HistorySearch

theorem rows_scoreAll (query : Text) (cells : Array Fuzzy.Cell)
    (items : List (HistoryItem × Nat)) :
    (scoreAll query cells items).2.map HistoryMatch.row =
      (items.filter fun (item, _) => Fuzzy.Occurs query item.command).map fun (item, index) =>
        (index, item.command) := by
  induction items generalizing cells with
  | nil => rfl
  | cons pair rest inductionHypothesis =>
      obtain ⟨item, index⟩ := pair
      have occurs := Fuzzy.scoreWith_isSome_iff cells item.command query
      have others := inductionHypothesis (Fuzzy.scoreWith cells item.command query).1
      simp only [scoreAll]
      split
      next nothing =>
        have absent : ¬ Fuzzy.Occurs query item.command := by
          rw [← occurs, nothing]
          exact Bool.false_ne_true
        rw [List.filter_cons_of_neg (by simpa using absent)]
        exact others
      next score found =>
        have present : Fuzzy.Occurs query item.command := by
          rw [← occurs, found]
          rfl
        rw [List.filter_cons_of_pos (by simpa using present), List.map_cons, List.map_cons, others]
        rfl

theorem scored_scoreAll (query : Text) (cells : Array Fuzzy.Cell)
    (items : List (HistoryItem × Nat)) :
    ∀ found ∈ (scoreAll query cells items).2, found.Scored query := by
  induction items generalizing cells with
  | nil => simp [scoreAll]
  | cons pair rest inductionHypothesis =>
      have others := inductionHypothesis (Fuzzy.scoreWith cells pair.1.command query).1
      simp only [scoreAll]
      split
      · exact others
      next score found =>
        rw [List.forall_mem_cons]
        exact ⟨⟨cells, found⟩, others⟩

/-- Before they are ordered the rows are the listed items. -/
theorem rows_matchesOf (search : HistorySearch) :
    search.matchesOf.2.map HistoryMatch.row =
      search.listed.map fun (item, index) => (index, item.command) := by
  simp only [matchesOf]
  split
  next untyped =>
    have all : search.listed = search.eligible := by
      simp only [listed, untyped, Fuzzy.occurs_nil, decide_true, List.filter_true]
    rw [all, List.map_map]
    rfl
  · exact rows_scoreAll _ _ _

/-- An order by age, by score and age, or by command. Without a query all scores are the same. -/
def Precedes (search : HistorySearch) (first second : HistoryMatch) : Prop :=
  match search.sort with
  | .recent => first.index < second.index
  | .relevance =>
      if search.query = [] then first.index < second.index
      else second.score < first.score ∨
        first.score = second.score ∧ first.index < second.index
  | .alphabetical => first.command < second.command

theorem ordered_perm (sort : HistorySort) (found : List HistoryMatch) :
    (ordered sort found).Perm found := by
  cases sort with
  | recent => exact .refl _
  | relevance => exact List.mergeSort_perm _ _
  | alphabetical => exact List.mergeSort_perm _ _

theorem matched_setQuery (search : HistorySearch) (query : Text) :
    (search.setQuery query).matched = ordered search.sort { search with query }.matchesOf.2 := rfl

/-- Of two matches the second comes first only with a greater score. -/
theorem ordered_relevance_pair (first second : HistoryMatch) :
    ordered .relevance [first, second] =
      if second.score ≤ first.score then [first, second] else [second, first] := by
  by_cases atMost : second.score ≤ first.score <;> simp [ordered, List.mergeSort, atMost]

theorem score_trans (a b c : HistoryMatch) (first : decide (b.score ≤ a.score) = true)
    (second : decide (c.score ≤ b.score) = true) : decide (c.score ≤ a.score) = true := by
  simp only [decide_eq_true_eq] at *
  omega

theorem score_total (a b : HistoryMatch) :
    (decide (b.score ≤ a.score) || decide (a.score ≤ b.score)) = true := by
  simp only [Bool.or_eq_true, decide_eq_true_eq]
  omega

/-- The order by score keeps matches of one score in their order. -/
theorem filter_score_ordered (score : Int) (found : List HistoryMatch) :
    (ordered .relevance found).filter (fun one => one.score = score) =
      found.filter fun one => one.score = score := by
  have perm := (ordered_perm .relevance found).filter fun one => decide (one.score = score)
  have kept : (found.filter fun one => decide (one.score = score)).Sublist
      (ordered .relevance found) := by
    apply List.sublist_mergeSort score_trans score_total _ List.filter_sublist
    apply List.pairwise_of_forall_mem_list
    intro a first b second
    have scores := And.intro (List.mem_filter.1 first).2 (List.mem_filter.1 second).2
    simp only [decide_eq_true_eq] at scores ⊢
    omega
  have filtered := kept.filter fun one => decide (one.score = score)
  rw [List.filter_filter] at filtered
  simp only [Bool.and_self] at filtered
  exact (filtered.eq_of_length perm.length_eq.symm).symm

/-- Rows of different commands, from the newest on, are put in the order of the search. -/
theorem precedes_ordered {search : HistorySearch} {found : List HistoryMatch}
    (ascending : found.Pairwise fun first second => first.index < second.index)
    (distinct : found.Pairwise fun first second => first.command ≠ second.command)
    (unscored : search.query = [] → ∀ one ∈ found, one.score = 0) :
    (ordered search.sort found).Pairwise search.Precedes := by
  have perm := ordered_perm search.sort found
  cases sorted : search.sort with
  | recent =>
      refine ascending.imp fun younger => ?_
      simpa only [Precedes, sorted] using younger
  | relevance =>
      rw [sorted] at perm
      have byScore : (ordered .relevance found).Pairwise fun first second =>
          second.score ≤ first.score :=
        (List.pairwise_mergeSort score_trans score_total found).imp of_decide_eq_true
      rw [List.pairwise_iff_forall_sublist] at byScore ⊢
      intro first second pair
      have atMost := byScore pair
      have ofAge (same : first.score = second.score) : first.index < second.index := by
        have kept := pair.filter fun one => decide (one.score = second.score)
        rw [filter_score_ordered] at kept
        simp only [List.filter_cons, List.filter_nil, same, decide_true, if_true] at kept
        exact List.pairwise_iff_forall_sublist.1 ascending (kept.trans List.filter_sublist)
      simp only [Precedes, sorted]
      split
      next untyped =>
        have zero (one : HistoryMatch) (member : one ∈ [first, second]) : one.score = 0 :=
          unscored untyped one (perm.mem_iff.1 (pair.subset member))
        refine ofAge ?_
        rw [zero first (by simp), zero second (by simp)]
      next typed => grind
  | alphabetical =>
      rw [sorted] at perm
      have byCommand : (ordered .alphabetical found).Pairwise fun first second =>
          first.command.le second.command = true := by
        apply List.pairwise_mergeSort
        · intro a b c
          exact Text.le_trans
        · intro a b
          exact Text.le_total a.command b.command
      have apart : (ordered .alphabetical found).Pairwise fun first second =>
          first.command ≠ second.command :=
        (perm.pairwise_iff fun other => Ne.symm other).2 distinct
      refine (byCommand.and apart).imp fun ⟨atMost, other⟩ => ?_
      simp only [Precedes, sorted]
      exact (Text.le_iff.1 atMost).resolve_right other

/-- Indices and commands of the found matches are related if those of the listed items are. -/
theorem pairwise_matchesOf {search : HistorySearch} (related : Nat × Text → Nat × Text → Prop)
    (holds : search.listed.Pairwise fun first second =>
      related (first.2, first.1.command) (second.2, second.1.command)) :
    search.matchesOf.2.Pairwise fun first second => related first.row second.row := by
  rw [← List.pairwise_map, rows_matchesOf, List.pairwise_map]
  exact holds

theorem rows_recompute (search : HistorySearch) :
    (search.recompute.matched.map HistoryMatch.row).Perm
      (search.listed.map fun (item, index) => (index, item.command)) := by
  rw [← rows_matchesOf]
  exact (ordered_perm search.sort search.matchesOf.2).map HistoryMatch.row

/-- A match points to an item with its command. -/
theorem item_of_mem_recompute {search : HistorySearch} {found : HistoryMatch}
    (member : found ∈ search.recompute.matched) :
    ∃ item, search.recompute.items[found.index]? = some item ∧ item.command = found.command := by
  have row := search.rows_recompute.mem_iff.1 (List.mem_map_of_mem member)
  obtain ⟨⟨item, index⟩, there, same⟩ := List.mem_map.1 row
  obtain ⟨rfl, command⟩ := Prod.ext_iff.1 same
  exact ⟨item, (mem_listed_iff.1 there).1, command⟩

/-- An operation that computes the matches changes what is searched for in its own part only. Then
the rows are the newest items of the commands that pass the filter and contain the query, each once,
in the order of the search, and the first one is selected. -/
theorem listing_of_recomputes {search : HistorySearch} {operation : SearchOperation}
    (anew : search.recomputes operation = true) :
    let after := search.perform operation
    after.terms = search.terms.after operation ∧
      after.selected = 0 ∧
      (after.matched.map HistoryMatch.index).Nodup ∧
      (∀ index, index ∈ after.matched.map HistoryMatch.index ↔ after.Lists index) ∧
      after.matched.Pairwise after.Precedes ∧
      ∀ found ∈ after.matched,
        (∃ item, after.items[found.index]? = some item ∧ item.command = found.command) ∧
          (after.query = [] ∧ found.score = 0 ∨ found.Scored after.query) := by
  have changes := search.terms_perform operation
  obtain ⟨changed, _, performed⟩ := perform_of_recomputes anew
  rw [performed] at changes ⊢
  intro after
  have perm : after.matched.Perm changed.matchesOf.2 := ordered_perm _ _
  have indices : (after.matched.map HistoryMatch.index).Perm (changed.listed.map Prod.snd) := by
    have first := changed.rows_recompute.map Prod.fst
    rwa [List.map_map, List.map_map] at first
  have ascending := changed.listed_ascending
  have scores (found : HistoryMatch) (member : found ∈ changed.matchesOf.2) :
      changed.query = [] ∧ found.score = 0 ∨ found.Scored changed.query := by
    simp only [matchesOf] at member
    split at member
    next untyped =>
      obtain ⟨pair, _, rfl⟩ := List.mem_map.1 member
      exact .inl ⟨untyped, rfl⟩
    · exact .inr (scored_scoreAll _ _ _ found member)
  refine ⟨changes, rfl, ?_, ?_, ?_, ?_⟩
  · have distinct : (changed.listed.map Prod.snd).Nodup := by
      rw [List.Nodup, List.pairwise_map]
      exact ascending.imp Nat.ne_of_lt
    exact indices.nodup_iff.2 distinct
  · intro index
    rw [indices.mem_iff]
    change _ ↔ changed.Lists index
    simp [lists_iff]
  · change (ordered changed.sort changed.matchesOf.2).Pairwise changed.Precedes
    apply precedes_ordered
    · exact pairwise_matchesOf (fun a b => a.1 < b.1) ascending
    · exact pairwise_matchesOf (fun a b => a.2 ≠ b.2) changed.listed_distinct
    · intro untyped found member
      simp only [matchesOf, if_pos untyped] at member
      obtain ⟨pair, _, rfl⟩ := List.mem_map.1 member
      rfl
  · intro found member
    exact ⟨item_of_mem_recompute member, scores found (perm.mem_iff.1 member)⟩

/-- The newest item of a command decides, even where only an older one is in the directory. -/
theorem listing_after_typing :
    let items : List HistoryItem :=
      [⟨Text.of "git stash", Text.of "/a"⟩, ⟨Text.of "gs", Text.of "/b"⟩,
        ⟨Text.of "gs", Text.of "/a"⟩, ⟨Text.of "Gist", Text.of "/a"⟩, ⟨Text.of "ls", Text.of "/a"⟩]
    let search := ((idle .directory .relevance).enter items (Text.of "/a")).type 'g'
    let after := search.perform (.type 's')
    search.recomputes (.type 's') = true ∧ after.query = Text.of "gs" ∧ after.selected = 0 ∧
      after.matched.map HistoryMatch.index = [0, 3] ∧ after.Lists 0 ∧ ¬ after.Lists 2 ∧
      after.matched.Pairwise after.Precedes := by
  intro items search after
  have anew : search.recomputes (.type 's') = true := rfl
  obtain ⟨changed, selected, _, listed, inOrder, _⟩ := listing_of_recomputes anew
  have rows : after.matched.map HistoryMatch.index = [0, 3] := by
    have found : { search with query := search.query ++ ['s'] }.matchesOf.2 =
        [⟨0, Text.of "git stash", 49, [0, 4]⟩, ⟨3, Text.of "Gist", 41, [0, 2]⟩] := by
      decide +kernel
    have sorted : search.sort = .relevance := by decide +kernel
    have matched : after.matched = _ := matched_setQuery search (search.query ++ ['s'])
    rw [matched, found, sorted, ordered_relevance_pair]
    rfl
  have typed : after.query = Text.of "gs" := by
    have sought : search.query = ['g'] := by decide +kernel
    simp only [terms, SearchTerms.after, SearchTerms.mk.injEq] at changed
    exact changed.2.2.1.trans (by rw [sought]; rfl)
  refine ⟨anew, typed, selected, rows, (listed 0).1 ?_, fun found => ?_, inOrder⟩
  · rw [rows]
    decide
  · have member := (listed 2).2 found
    rw [rows] at member
    exact absurd member (by decide)

end HistorySearch

end Promptline
