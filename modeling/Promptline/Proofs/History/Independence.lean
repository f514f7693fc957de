/-
This file compares two history searches with the same input and different pasts. The rows are always
the same ones. Their scores are the same as long as no character is doubled in the query and in the
command, since a doubled one can bring in a bonus that an earlier match has left in the cells.
-/

import Promptline.Proofs.History.Filling
import Promptline.Proofs.History.Listing

namespace Promptline

namespace Fuzzy

theorem placesFrom_getElem? {start column : Nat} {before : PlaceClass} {text : Text}
    {place : Place} (there : (placesFrom start before text)[column]? = some place) :
    place.column = start + column ∧ text[column]? = some place.char ∧
      0 ≤ place.bonus ∧ place.bonus ≤ 8 := by
  induction text generalizing start column before with
  | nil => simp [placesFrom] at there
  | cons c text inductionHypothesis =>
      cases column with
      | zero =>
          obtain rfl := Option.some.inj there
          have bounds (before here : PlaceClass) :
              0 ≤ before.bonus here ∧ before.bonus here ≤ 8 := by
            cases before <;> cases here <;> decide
          exact ⟨rfl, rfl, bounds _ _⟩
      | succ column =>
          obtain ⟨numbered, char, bounds⟩ := inductionHypothesis there
          exact ⟨by omega, char, bounds⟩

theorem placesFrom_length (start : Nat) (before : PlaceClass) (text : Text) :
    (placesFrom start before text).length = text.length := by
  induction text generalizing start before with
  | nil => rfl
  | cons c text inductionHypothesis =>
      simp only [placesFrom, List.length_cons, inductionHypothesis]

theorem places_length (text : Text) : (places text).length = text.length := by
  rw [← placesFrom_length 0 .start text, places]
  split
  next nothing => rw [nothing]
  next first rest found => rw [found, List.length_cons, List.length_cons]

/-- A place knows its column and its character, and its bonus is small. -/
theorem places_getElem? {text : Text} {column : Nat} {place : Place}
    (there : (places text)[column]? = some place) :
    place.column = column ∧ text[column]? = some place.char ∧
      0 ≤ place.bonus ∧ place.bonus ≤ 16 := by
  rw [places] at there
  split at there
  · simp at there
  next first rest found =>
    have known (place : Place) (there : (first :: rest)[column]? = some place) :=
      placesFrom_getElem? (found ▸ there)
    cases column with
    | zero =>
        obtain rfl := Option.some.inj there
        obtain ⟨numbered, char, atLeast, atMost⟩ := known first rfl
        refine ⟨numbered, char, ?_, ?_⟩
        · change 0 ≤ 2 * first.bonus
          omega
        · change 2 * first.bonus ≤ 16
          omega
    | succ column =>
        obtain ⟨numbered, char, atLeast, atMost⟩ := known place there
        exact ⟨by omega, char, atLeast, by omega⟩

/-- The characters that stand twice in a row. -/
def doubled (sensitive : Bool) : Text → List Char
  | a :: b :: rest =>
      if agrees sensitive a b then fold sensitive a :: doubled sensitive (b :: rest)
      else doubled sensitive (b :: rest)
  | _ => []

/-- No character is doubled both in the pattern and in the text, and the text is not huge. -/
def Undoubled (pattern text : Text) : Prop :=
  (doubled (isCaseSensitive pattern) pattern).Disjoint (doubled (isCaseSensitive pattern) text) ∧
    text.length < reach

instance (pattern text : Text) : Decidable (Undoubled pattern text) :=
  @instDecidableAnd _ _ (List.decidableBAll (fun c => c ∈ _ → False) _) (Nat.decLt _ _)

theorem mem_doubled {sensitive : Bool} {text : Text} {column : Nat} {a b : Char}
    (one : text[column]? = some a) (other : text[column + 1]? = some b)
    (same : agrees sensitive a b = true) : fold sensitive a ∈ doubled sensitive text := by
  induction text generalizing column with
  | nil => simp at one
  | cons c text inductionHypothesis =>
      cases text with
      | nil => simp at other
      | cons d rest =>
          simp only [doubled]
          cases column with
          | zero =>
              obtain rfl := Option.some.inj one
              obtain rfl := Option.some.inj other
              rw [if_pos same]
              exact List.mem_cons_self
          | succ column =>
              have later := inductionHypothesis one other
              split
              · exact List.mem_cons_of_mem _ later
              · exact later

/-- A text without doubled characters of the pattern is aligned with its leftmost columns. -/
theorem aligned_of_undoubled {pattern text : Text} (undoubled : Undoubled pattern text)
    {leftmost : List Nat}
    (found : leftmost? (isCaseSensitive pattern) 0 pattern text = some leftmost) :
    Aligned (isCaseSensitive pattern) (places text) (pattern.zip leftmost) := by
  obtain ⟨_, agreed⟩ := List.forall₂_iff_zip.1 (leftmost?_agrees found)
  have ascending := (leftmost?_ascending found).2
  refine ⟨fun row p first held => ?_, fun row p first q next held held' => ?_,
    fun row p first q next held held' column one other here there same same' => ?_,
    fun column place there => (places_getElem? there).1, fun place member => ?_, ?_⟩
  · obtain ⟨_, c, there, same⟩ := agreed (List.mem_of_getElem? held)
    obtain ⟨place, here⟩ : ∃ place, (places text)[first]? = some place := by
      have inside := (List.getElem?_eq_some_iff.1 there).1
      exact ⟨_, List.getElem?_eq_getElem (by rw [places_length]; omega)⟩
    obtain rfl := Option.some.inj (there.symm.trans (places_getElem? here).2.1)
    exact ⟨place, here, same⟩
  · obtain ⟨inside, rfl⟩ := List.getElem?_eq_some_iff.1 (List.getElem?_zip_eq_some.1 held).2
    obtain ⟨inside', rfl⟩ := List.getElem?_eq_some_iff.1 (List.getElem?_zip_eq_some.1 held').2
    exact List.pairwise_iff_getElem.1 ascending row (row + 1) inside inside'
      (Nat.lt_succ_self row)
  · have one' := (places_getElem? here).2.1
    have other' := (places_getElem? there).2.1
    have inPattern := (List.getElem?_zip_eq_some.1 held).1
    have inPattern' := (List.getElem?_zip_eq_some.1 held').1
    by_contra twice
    rw [Bool.not_eq_false, agrees_iff] at twice
    rw [agrees_iff] at same same'
    have inText := mem_doubled one' other' (agrees_iff.2 (same'.symm.trans twice))
    have typed := mem_doubled inPattern inPattern' (agrees_iff.2 (same.trans same'.symm))
    exact undoubled.1 typed (same ▸ inText)
  · obtain ⟨column, there⟩ := List.mem_iff_getElem?.1 member
    exact (places_getElem? there).2.2
  · rw [places_length]
    exact undoubled.2

theorem modest_scoreWith {cells : Array Cell} (modest : Modest cells) (text pattern : Text) :
    Modest (scoreWith cells text pattern).1 := by
  have bound (place : Place) (member : place ∈ places text) : place.bonus ≤ 16 := by
    obtain ⟨column, there⟩ := List.mem_iff_getElem?.1 member
    exact (places_getElem? there).2.2.2
  simp only [scoreWith]
  split
  · exact modest
  next leftmost _ =>
    exact Matrix.modest_fill (Matrix.modest_prepare (Matrix.modest_resized modest _ _) leftmost)
      _ bound pattern leftmost

/-- The last row starts at the last of the leftmost columns. -/
theorem originOf_zip {pattern : Text} {leftmost : List Nat}
    (sameLength : pattern.length = leftmost.length) :
    originOf (pattern.zip leftmost) pattern.length = leftmost.getLastD 0 := by
  cases sized : pattern.length with
  | zero =>
      obtain rfl := List.length_eq_zero_iff.1 (sameLength.symm.trans sized)
      rfl
  | succ last =>
      obtain ⟨⟨p, first⟩, held⟩ : ∃ pair, (pattern.zip leftmost)[last]? = some pair := by
        have inside : last < (pattern.zip leftmost).length := by
          rw [List.length_zip, ← sameLength, Nat.min_self, sized]
          exact Nat.lt_succ_self last
        exact ⟨_, List.getElem?_eq_getElem inside⟩
      rw [List.getLastD_eq_getLast?, List.getLast?_eq_getElem?, ← sameLength, sized,
        Nat.add_sub_cancel, (List.getElem?_zip_eq_some.1 held).2]
      simp only [originOf, held, Option.getD_some]

/-- Without doubled characters the score does not depend on what the cells hold. -/
theorem scoreWith_eq {pattern text : Text} (undoubled : Undoubled pattern text)
    {cells others : Array Cell} (modest : Modest cells) (modest' : Modest others) :
    (scoreWith cells text pattern).2 = (scoreWith others text pattern).2 := by
  simp only [scoreWith]
  cases found : leftmost? (isCaseSensitive pattern) 0 pattern text with
  | none => rfl
  | some leftmost =>
      have aligned := aligned_of_undoubled undoubled found
      obtain ⟨rows, agreed⟩ := List.forall₂_iff_zip.1 (leftmost?_agrees found)
      have length : (pattern.zip leftmost).length = pattern.length := by
        rw [List.length_zip, ← rows, Nat.min_self]
      have inside (first : Nat) (member : first ∈ leftmost) : first ≤ (places text).length := by
        rw [← List.map_snd_zip (Nat.le_of_eq rows.symm)] at member
        obtain ⟨⟨p, first⟩, paired, rfl⟩ := List.mem_map.1 member
        obtain ⟨_, c, there, _⟩ := agreed paired
        have within := (List.getElem?_eq_some_iff.1 there).1
        rw [places_length]
        omega
      have filled {cells : Array Cell} (modest : Modest cells) :=
        (Matrix.filled_prepare modest rfl rows inside (places_length text)).run aligned _ rfl
          (Nat.zero_le _)
      obtain ⟨best, trace⟩ :=
        (filled modest).read_eq aligned (filled modest') (leftmost.headD 0)
      rw [length, originOf_zip rows] at best trace
      have positions := (trace _ rfl).trans (congrArg _ (congrArg Prod.fst best))
      refine congrArg some ?_
      rw [Score.mk.injEq]
      exact ⟨congrArg Prod.snd best, congrArg List.reverse positions⟩

end Fuzzy

namespace HistorySearch

/-- Two matches belong to the same item, and they are the same without doubled characters. -/
def Corresponds (query : Text) (first second : HistoryMatch) : Prop :=
  first.row = second.row ∧
    (query = [] ∨ Fuzzy.Undoubled query first.command → first = second)

theorem scoreAll_corresponds (query : Text) (items : List (HistoryItem × Nat))
    {cells others : Array Fuzzy.Cell} (modest : Fuzzy.Modest cells)
    (modest' : Fuzzy.Modest others) (typed : query ≠ []) :
    List.Forall₂ (Corresponds query) (scoreAll query cells items).2
      (scoreAll query others items).2 := by
  induction items generalizing cells others with
  | nil => exact .nil
  | cons pair rest inductionHypothesis =>
      obtain ⟨item, index⟩ := pair
      have later := inductionHypothesis (Fuzzy.modest_scoreWith modest item.command query)
        (Fuzzy.modest_scoreWith modest' item.command query)
      have occurs := Fuzzy.scoreWith_isSome_iff cells item.command query
      have occurs' := Fuzzy.scoreWith_isSome_iff others item.command query
      have same (undoubled : Fuzzy.Undoubled query item.command) :=
        Fuzzy.scoreWith_eq undoubled modest modest'
      simp only [scoreAll]
      cases one : (Fuzzy.scoreWith cells item.command query).2 with
      | none =>
          cases other : (Fuzzy.scoreWith others item.command query).2 with
          | none => exact later
          | some score =>
              rw [one] at occurs
              rw [other] at occurs'
              exact absurd (occurs.2 (occurs'.1 rfl)) Bool.false_ne_true
      | some score =>
          cases other : (Fuzzy.scoreWith others item.command query).2 with
          | none =>
              rw [one] at occurs
              rw [other] at occurs'
              exact absurd (occurs'.2 (occurs.1 rfl)) Bool.false_ne_true
          | some score' =>
              refine .cons ⟨rfl, fun clear => ?_⟩ later
              rw [one, other] at same
              obtain rfl := Option.some.inj (same (clear.resolve_left typed))
              rfl

theorem modest_scoreAll (query : Text) (items : List (HistoryItem × Nat))
    {cells : Array Fuzzy.Cell} (modest : Fuzzy.Modest cells) :
    Fuzzy.Modest (scoreAll query cells items).1 := by
  induction items generalizing cells with
  | nil => exact modest
  | cons pair rest inductionHypothesis =>
      have later := inductionHypothesis (Fuzzy.modest_scoreWith modest pair.1.command query)
      simp only [scoreAll]
      split <;> exact later

/-- Whatever a search has seen, its cells only hold bonuses that a place can give. -/
theorem Reachable.modest {search : HistorySearch} (reachable : Reachable search) :
    Fuzzy.Modest search.cells := by
  induction reachable with
  | idle filter sort =>
      intro index cell held
      simp [HistorySearch.idle] at held
  | @perform search _ operation inductionHypothesis =>
      cases anew : search.recomputes operation with
      | false => rwa [cells_perform_of_not_recomputes anew]
      | true =>
          obtain ⟨changed, cells, performed⟩ := perform_of_recomputes anew
          rw [← cells] at inductionHypothesis
          rw [performed]
          change Fuzzy.Modest changed.matchesOf.1
          simp only [matchesOf]
          split
          · exact inductionHypothesis
          · exact modest_scoreAll _ _ inductionHypothesis

theorem Computed.exists_recompute {search : HistorySearch} (computed : Computed search) :
    ∃ changed : HistorySearch, Fuzzy.Modest changed.cells ∧ search = changed.recompute := by
  obtain ⟨reachable, anew⟩ := computed
  obtain ⟨changed, cells, performed⟩ := perform_of_recomputes anew
  exact ⟨changed, cells ▸ reachable.modest, performed⟩

/-- The matches of two searches for the same thing correspond before they are ordered. -/
theorem matchesOf_corresponds {first second : HistorySearch} (modest : Fuzzy.Modest first.cells)
    (modest' : Fuzzy.Modest second.cells) (items : first.items = second.items)
    (directory : first.directory = second.directory) (query : first.query = second.query)
    (filter : first.filter = second.filter) :
    List.Forall₂ (Corresponds first.query) first.matchesOf.2 second.matchesOf.2 := by
  have eligible : first.eligible = second.eligible := by
    simp only [HistorySearch.eligible, items, directory, filter]
  simp only [matchesOf, ← query, ← eligible]
  split
  · exact List.forall₂_same.2 fun _ _ => ⟨rfl, fun _ => rfl⟩
  next typed => exact scoreAll_corresponds _ _ modest modest' typed

/-- An order that does not ask for scores orders the rows alone. -/
theorem rows_ordered {sort : HistorySort} (unscored : sort ≠ .relevance)
    {first second : List HistoryMatch}
    (rows : first.map HistoryMatch.row = second.map HistoryMatch.row) :
    (ordered sort first).map HistoryMatch.row = (ordered sort second).map HistoryMatch.row := by
  cases sort with
  | recent => exact rows
  | relevance => exact absurd rfl unscored
  | alphabetical =>
      have byRow (found : List HistoryMatch) : (ordered .alphabetical found).map HistoryMatch.row =
          (found.map HistoryMatch.row).mergeSort fun a b => a.2.le b.2 :=
        List.map_mergeSort fun _ _ _ _ => rfl
      rw [byRow, byRow, rows]

/-- Two searches for the same thing list the same items. A match is the same in both of them unless
a character is doubled in the query and in its command, and without such a match so are the
lists. -/
theorem matched_of_computed {first second : HistorySearch} (computed : Computed first)
    (computed' : Computed second) (items : first.items = second.items)
    (directory : first.directory = second.directory) (query : first.query = second.query)
    (filter : first.filter = second.filter) (sort : first.sort = second.sort) :
    (first.matched.map HistoryMatch.row).Perm (second.matched.map HistoryMatch.row) ∧
      (first.sort ≠ .relevance →
        first.matched.map HistoryMatch.row = second.matched.map HistoryMatch.row) ∧
      (∀ found ∈ first.matched,
        first.query = [] ∨ Fuzzy.Undoubled first.query found.command → found ∈ second.matched) ∧
      ((∀ found ∈ first.matched,
        first.query = [] ∨ Fuzzy.Undoubled first.query found.command) →
          first.matched = second.matched) := by
  obtain ⟨one, modest, rfl⟩ := computed.exists_recompute
  obtain ⟨other, modest', rfl⟩ := computed'.exists_recompute
  have corresponds := matchesOf_corresponds modest modest' items directory query filter
  have sorted : one.sort = other.sort := sort
  have perm := ordered_perm one.sort one.matchesOf.2
  have perm' := ordered_perm other.sort other.matchesOf.2
  have rows : one.matchesOf.2.map HistoryMatch.row = other.matchesOf.2.map HistoryMatch.row := by
    rw [← List.forall₂_eq_eq_eq, List.forall₂_map_left_iff, List.forall₂_map_right_iff]
    exact corresponds.imp fun _ _ pair => pair.1
  obtain ⟨length, paired⟩ := List.forall₂_iff_zip.1 corresponds
  refine ⟨?_, fun unscored => ?_, fun found member clear => ?_, fun clear => ?_⟩
  · have listed := perm.map HistoryMatch.row
    rw [rows] at listed
    exact listed.trans (perm'.map HistoryMatch.row).symm
  · change (ordered one.sort one.matchesOf.2).map HistoryMatch.row =
      (ordered other.sort other.matchesOf.2).map HistoryMatch.row
    rw [← sorted]
    exact rows_ordered unscored rows
  · have inFirst := perm.mem_iff.1 member
    rw [← List.map_fst_zip (Nat.le_of_eq length)] at inFirst
    obtain ⟨⟨found, partner⟩, both, rfl⟩ := List.mem_map.1 inFirst
    obtain rfl := (paired both).2 clear
    exact perm'.mem_iff.2 (List.of_mem_zip both).2
  · have same : one.matchesOf.2 = other.matchesOf.2 := by
      rw [← List.forall₂_eq_eq_eq, List.forall₂_iff_zip]
      refine ⟨length, fun {found partner} both => ?_⟩
      exact (paired both).2 (clear found (perm.mem_iff.2 (List.of_mem_zip both).1))
    change ordered one.sort one.matchesOf.2 = ordered other.sort other.matchesOf.2
    rw [sorted, same]

/-- A character that is typed and erased leaves no trace where nothing is doubled. -/
theorem matched_after_erasing :
    let items : List HistoryItem :=
      [⟨Text.of "less notes", Text.of "/"⟩, ⟨Text.of "git status", Text.of "/"⟩,
        ⟨Text.of "gist", Text.of "/"⟩]
    let entered := (idle .all .relevance).perform (.enter items (Text.of "/"))
    let search := entered.perform (.setQuery (Text.of "gs"))
    let again := (search.perform (.type 't')).perform .erase
    Computed search ∧ Computed again ∧ search.items = again.items ∧
      search.directory = again.directory ∧ search.query = again.query ∧
      search.filter = again.filter ∧ search.sort = again.sort ∧
      search.matched = again.matched ∧
      search.matched.map HistoryMatch.index = [1, 2] := by
  intro items entered search again
  have reachable : Reachable entered := .perform (.idle .all .relevance) _
  have computed : Computed search := .perform reachable rfl
  have computed' : Computed again := by
    refine .perform (.perform (.perform reachable _) _) ?_
    decide +kernel
  have input : search.items = again.items ∧ search.directory = again.directory ∧
      search.query = again.query ∧ search.filter = again.filter ∧ search.sort = again.sort := by
    decide +kernel
  obtain ⟨items, directory, query, filter, sort⟩ := input
  have matched : search.matched =
      [⟨1, Text.of "git status", 49, [0, 4]⟩, ⟨2, Text.of "gist", 43, [0, 2]⟩] := by
    have found : { entered with query := Text.of "gs" }.matchesOf.2 =
        [⟨1, Text.of "git status", 49, [0, 4]⟩, ⟨2, Text.of "gist", 43, [0, 2]⟩] := by
      decide +kernel
    have ordered : search.matched = _ := matched_setQuery entered (Text.of "gs")
    have sorted : entered.sort = .relevance := by decide +kernel
    rw [ordered, found, sorted, ordered_relevance_pair]
    rfl
  obtain ⟨_, _, _, same⟩ := matched_of_computed computed computed' items directory query filter sort
  have clear : ∀ found ∈ search.matched,
      search.query = [] ∨ Fuzzy.Undoubled search.query found.command := by
    have typed : search.query = Text.of "gs" := by decide +kernel
    rw [matched, typed]
    decide +kernel
  refine ⟨computed, computed', items, directory, query, filter, sort, same clear, ?_⟩
  rw [matched]
  rfl

theorem perform_erase {search : HistorySearch} (typed : search.query ≠ []) :
    search.perform .erase = search.setQuery search.query.dropLast := by
  simp only [perform, erase?, if_neg typed, Option.getD_some]

/-- With a doubled character an earlier match leaves a bonus, and the rows change places. -/
theorem matched_after_erasing_doubled :
    let items : List HistoryItem :=
      [⟨Text.of "ba/AA", Text.of "/"⟩, ⟨Text.of " Aa A", Text.of "/"⟩]
    let entered := (idle .all .relevance).perform (.enter items (Text.of "/"))
    let search := entered.perform (.setQuery (Text.of "aa"))
    let again := (search.perform (.type 'b')).perform .erase
    Computed search ∧ Computed again ∧ search.items = again.items ∧
      search.directory = again.directory ∧ search.query = again.query ∧
      search.filter = again.filter ∧ search.sort = again.sort ∧
      search.matched = [⟨1, Text.of " Aa A", 41, [1, 2]⟩, ⟨0, Text.of "ba/AA", 39, [3, 4]⟩] ∧
      again.matched = [⟨0, Text.of "ba/AA", 43, [3, 4]⟩, ⟨1, Text.of " Aa A", 41, [1, 2]⟩] := by
  intro items entered search again
  have reachable : Reachable entered := .perform (.idle .all .relevance) _
  have typed : (search.perform (.type 'b')).query ≠ [] := by decide +kernel
  have computed : Computed search := .perform reachable rfl
  have computed' : Computed again := by
    refine .perform (.perform (.perform reachable _) _) ?_
    decide +kernel
  have input : search.items = again.items ∧ search.directory = again.directory ∧
      search.query = again.query ∧ search.filter = again.filter ∧ search.sort = again.sort := by
    decide +kernel
  obtain ⟨items, directory, query, filter, sort⟩ := input
  refine ⟨computed, computed', items, directory, query, filter, sort, ?_, ?_⟩
  · have found : { entered with query := Text.of "aa" }.matchesOf.2 =
        [⟨0, Text.of "ba/AA", 39, [3, 4]⟩, ⟨1, Text.of " Aa A", 41, [1, 2]⟩] := by
      decide +kernel
    have ordered : search.matched = _ := matched_setQuery entered (Text.of "aa")
    have sorted : entered.sort = .relevance := by decide +kernel
    rw [ordered, found, sorted, ordered_relevance_pair]
    rfl
  · have found : { search.perform (.type 'b') with
        query := (search.perform (.type 'b')).query.dropLast }.matchesOf.2 =
        [⟨0, Text.of "ba/AA", 43, [3, 4]⟩, ⟨1, Text.of " Aa A", 41, [1, 2]⟩] := by
      decide +kernel
    have erased : again = _ := perform_erase typed
    have sorted : (search.perform (.type 'b')).sort = .relevance := by decide +kernel
    rw [erased, matched_setQuery, found, sorted, ordered_relevance_pair]
    rfl

end HistorySearch

end Promptline
