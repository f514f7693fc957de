/-
This file says what the screen shows of a history search. The cursor stands behind the query as long
as its column fits into a word. A match counts the characters of a command and the screen counts its
clusters, so the highlighted clusters are the matched ones where every cluster is one character.
-/

import Promptline.Proofs.Editor.Reachable
import Promptline.Proofs.Screen.Frame
import Promptline.Proofs.Text.SingleLine
import Promptline.Proofs.Text.Truncation

namespace Promptline

namespace Text

/-- The number of the first character of a cluster. -/
def clusterStart (text : Text) (number : Nat) : Nat := (text.clusters.take number).flatten.length

theorem clusterStart_succ {text cluster : Text} {number : Nat}
    (found : text.clusters[number]? = some cluster) :
    text.clusterStart (number + 1) = text.clusterStart number + cluster.length := by
  rw [clusterStart, List.take_add_one, found, List.flatten_append, List.length_append,
    Option.toList_some, List.flatten_singleton, clusterStart]

/-- Behind clusters of one character the numbers agree. -/
theorem clusterStart_of_single {text : Text} {number : Nat}
    (inside : number ≤ text.clusters.length)
    (single : ∀ cluster ∈ text.clusters.take number, cluster.length = 1) :
    text.clusterStart number = number := by
  have lengths : (text.clusters.take number).map List.length = List.replicate number 1 := by
    refine List.eq_replicate_iff.2 ⟨?_, List.forall_mem_map.2 single⟩
    rw [List.length_map, List.length_take, Nat.min_eq_left inside]
  rw [clusterStart, List.length_flatten, lengths, List.sum_replicate_nat, Nat.mul_one]

end Text

/-- As the matched characters are drawn. -/
def Flags.IsHighlighted (flags : Flags) : Prop := flags.bold = true ∧ flags.underline = true

instance (flags : Flags) : Decidable flags.IsHighlighted :=
  inferInstanceAs (Decidable (flags.bold = true ∧ flags.underline = true))

namespace SearchRow

/-- A matched position is among the characters of a cluster. -/
def Touches (row : SearchRow) (number : Nat) : Prop :=
  ∃ position ∈ row.positions, row.command.clusterStart number ≤ position ∧
    position < row.command.clusterStart (number + 1)

instance (row : SearchRow) (number : Nat) : Decidable (row.Touches number) :=
  inferInstanceAs (Decidable (∃ position ∈ row.positions, _ ∧ _))

/-- The clusters of the command for which there is room. -/
def shown (row : SearchRow) (width : Nat) : Drawing := row.drawn.drawing.fitting width

/-- The shown clusters that are highlighted are those with a matched character. -/
def MarksMatches (row : SearchRow) (width : Nat) : Prop :=
  ∀ number drawn, (row.shown width)[number]? = some drawn →
    (drawn.2.IsHighlighted ↔ row.Touches number)

theorem isHighlighted_searchFlags (row : SearchRow) (number : Nat) :
    (Compose.searchFlags row number).IsHighlighted ↔ number ∈ row.positions := by
  have flags : ∀ matched selected : Bool,
      ((if matched then Flags.highlighted else .none).union
        (if selected then .reversed else .none)).IsHighlighted ↔ matched = true := by decide
  rw [Compose.searchFlags, flags, List.contains_iff_mem]

/-- A cluster is shown with the flags of its number. -/
theorem getElem?_shown {row : SearchRow} {width number : Nat} {drawn : Text × Flags}
    (found : (row.shown width)[number]? = some drawn) :
    row.command.clusters[number]? = some drawn.1 ∧
      drawn.2 = Compose.searchFlags row number := by
  obtain ⟨inside, rfl⟩ := List.getElem?_eq_some_iff.1 found
  have whole := List.prefix_iff_getElem?.1 (row.drawn.drawing.fitting_isPrefix width) number inside
  obtain ⟨cluster, held, same⟩ := Option.map_eq_some_iff.1 (List.getElem?_mapIdx.symm.trans whole)
  change (cluster, _) = (row.shown width)[number] at same
  rw [← same]
  exact ⟨held, rfl⟩

theorem length_shown_le (row : SearchRow) (width : Nat) :
    (row.shown width).length ≤ row.command.clusters.length := by
  have shorter := (row.drawn.drawing.fitting_isPrefix width).length_le
  rwa [drawn, List.length_mapIdx] at shorter

theorem map_fst_drawing (row : SearchRow) :
    row.drawn.drawing.map Prod.fst = row.command.clusters := by
  rw [drawn, List.mapIdx_eq_zipIdx_map, List.map_map]
  exact List.zipIdx_map_fst 0 _

/-- How many clusters are shown does not depend on what is matched. -/
theorem length_shown_congr (row : SearchRow) (positions : List Nat) (width : Nat) :
    ({ row with positions }.shown width).length = (row.shown width).length :=
  Drawing.length_fitting_congr
    ((map_fst_drawing { row with positions }).trans row.map_fst_drawing.symm) width

/-- A cluster of one character behind clusters of one character is matched by its number. -/
theorem touches_iff_of_single {row : SearchRow} {number : Nat}
    (inside : number < row.command.clusters.length)
    (single : ∀ cluster ∈ row.command.clusters.take (number + 1), cluster.length = 1) :
    row.Touches number ↔ number ∈ row.positions := by
  have start := Text.clusterStart_of_single (Nat.le_of_lt inside) fun cluster member =>
    single cluster (List.take_subset_take_left _ (Nat.le_succ number) member)
  have stop := Text.clusterStart_of_single inside single
  rw [Touches, start, stop]
  constructor
  · rintro ⟨position, matched, from_, before⟩
    rwa [show number = position by omega]
  · exact fun matched => ⟨number, matched, by omega, by omega⟩

theorem touches_singleton (row : SearchRow) (position number : Nat) :
    { row with positions := [position] }.Touches number ↔
      row.command.clusterStart number ≤ position ∧
        position < row.command.clusterStart (number + 1) := by
  simp [Touches]

/-- A cluster that is matched by its number whatever is matched starts and ends where the number
does. -/
theorem length_eq_one_of_touches_iff {row : SearchRow} {number : Nat} {cluster : Text}
    (found : row.command.clusters[number]? = some cluster)
    (alike : ∀ positions : List Nat,
      { row with positions }.Touches number ↔ number ∈ positions) : cluster.length = 1 := by
  have filled := List.length_pos_iff.2 (Text.ne_nil_of_mem_clusters (List.mem_of_getElem? found))
  have behind := Text.clusterStart_succ found
  have first := (alike [row.command.clusterStart number]).1
    ((row.touches_singleton _ number).2 (by omega))
  have last := (alike [row.command.clusterStart (number + 1) - 1]).1
    ((row.touches_singleton _ number).2 (by omega))
  rw [List.mem_singleton] at first last
  omega

/-- The right clusters are highlighted if and only if the number of a shown cluster is among the
positions just when one of its characters is. -/
theorem marksMatches_iff (row : SearchRow) (width : Nat) :
    row.MarksMatches width ↔
      ∀ number < (row.shown width).length, number ∈ row.positions ↔ row.Touches number := by
  constructor
  · intro marks number inside
    have found := List.getElem?_eq_getElem inside
    rw [← marks number _ found, (getElem?_shown found).2, isHighlighted_searchFlags]
  · intro alike number drawn found
    rw [(getElem?_shown found).2, isHighlighted_searchFlags]
    exact alike number (List.getElem?_eq_some_iff.1 found).1

/-- The right clusters are highlighted whatever is matched, if and only if every shown cluster is
one character. -/
theorem forall_marksMatches_iff (row : SearchRow) (width : Nat) :
    (∀ positions : List Nat, { row with positions }.MarksMatches width) ↔
      ∀ drawn ∈ row.shown width, drawn.1.length = 1 := by
  simp only [marksMatches_iff, length_shown_congr]
  constructor
  · intro alike drawn member
    obtain ⟨number, found⟩ := List.mem_iff_getElem?.1 member
    exact length_eq_one_of_touches_iff (getElem?_shown found).1 fun positions =>
      (alike positions number (List.getElem?_eq_some_iff.1 found).1).symm
  · intro single positions number inside
    have among := Nat.lt_of_lt_of_le inside (row.length_shown_le width)
    refine (@touches_iff_of_single { row with positions } number among
      fun cluster member => ?_).symm
    obtain ⟨place, before, rfl⟩ := List.mem_take_iff_getElem.1 member
    have reached : place < (row.shown width).length := by omega
    have held := (getElem?_shown (List.getElem?_eq_getElem reached)).1
    rw [(List.getElem?_eq_some_iff.1 held).2]
    exact single _ (List.getElem_mem reached)

end SearchRow

theorem HistorySearch.solid_promptHead (search : HistorySearch) : search.promptHead.Solid := by
  have all : ∀ filter sort, (HistorySearch.idle filter sort).promptHead.Solid := by
    intro filter sort
    cases filter <;> cases sort <;> decide +kernel
  exact all search.filter search.sort

namespace Compose

/-- Clusters in one row leave the others alone. -/
theorem row_of_putAll {frame after : Frame} {x y other : Nat} {drawing : Drawing}
    (apart : other ≠ y) (drawn : putAll frame x y drawing = some after) :
    after.row other = frame.row other := by
  induction drawing generalizing frame x with
  | nil =>
      obtain rfl := Option.some.inj drawn
      rfl
  | cons first rest inductionHypothesis =>
      obtain ⟨⟨written, next⟩, put, others⟩ := Option.bind_eq_some_iff.1 drawn
      have kept := Frame.row_of_put apart put
      simp only at others
      split at others
      · obtain rfl := Option.some.inj others
        exact kept
      · rw [inductionHypothesis others, kept]

/-- The prompt is shown up to the query if there is room for it. -/
theorem width_promptHead_le {editor : Editor}
    (solid : Text.Solid (editor.search.query ++ Text.of "': " ++
      editor.search.selectedCommand?.getD []))
    (narrow : editor.search.promptHead.width < editor.size.columns) :
    editor.search.promptHead.width ≤
      ((promptRow editor).drawing.fitting editor.size.columns).total := by
  have before := editor.search.solid_promptHead
  have total := Drawing.total_of_plain before.plain .none
  have prompt : editor.search.prompt = editor.search.promptHead ++ (editor.search.query ++
      Text.of "': " ++ editor.search.selectedCommand?.getD []) := by
    simp only [HistorySearch.prompt, List.append_assoc]
  rw [promptRow, prompt, before.truncate_append solid narrow,
    before.clusters_append (solid.truncate _), List.map_append,
    Drawing.fitting_append (by omega), Drawing.total_append, total]
  exact Nat.le_add_right _ _

section Search

variable {editor : Editor} (word : editor.size.columns ≤ 65535)

include word

/-- The prompt is drawn into the first row, whatever is below it, and the cursor is kept on it. -/
theorem prompt_search {composed : Composed} (found : search editor = some composed) :
    composed.frame.row 0 = Row.painted editor.size.columns (promptRow editor).drawing ∧
      composed.cursor =
        min (screenWord (editor.search.promptHead.width + editor.search.query.width))
          (((promptRow editor).drawing.fitting editor.size.columns).total - 1) := by
  have inside := height_blank_pos editor.size.columns (screenWord (shownMatches editor).length)
  have prompt := @Frame.put_blank _ 0 inside _ (row_blank _ _) word
    (editor.search.prompt.truncate editor.size.columns) .none (promptRow editor).drawing
    (by rw [promptRow])
  rw [search_eq_bind, prompt] at found
  obtain ⟨prompted, written, rest⟩ := Option.bind_eq_some_iff.1 found
  obtain ⟨-, written⟩ := Option.ite_none_right_eq_some.1 written
  obtain rfl := Option.some.inj written
  obtain ⟨frame, drawn, same⟩ := Option.bind_eq_some_iff.1 rest
  obtain rfl := Option.some.inj same
  refine ⟨?_, by simp only; omega⟩
  rw [row_of_drawRows (fun below => row_of_putAll (Nat.ne_of_lt below)) Nat.zero_lt_one drawn,
    Frame.row_setRow inside]

end Search

end Compose

namespace Editor

/-- Each command is drawn into a row of its own below the prompt. -/
theorem row_compose_of_searching {editor : Editor} (searching : editor.search.active = true)
    (word : editor.size.columns ≤ 65535) (rows : editor.size.rows ≤ 65535) {place : Nat}
    {row : SearchRow} (listed : (Compose.shownMatches editor)[place]? = some row)
    {composed : Composed} (found : editor.compose = some composed) :
    composed.frame.row (place + 1) = Row.painted editor.size.columns row.drawn.drawing := by
  rw [compose_of_searching searching word rows, Option.ite_none_right_eq_some] at found
  obtain rfl := Option.some.inj found.2
  simp [Frame.row, Compose.drawnRows, searching, List.getD_eq_getElem?_getD, listed]
  rfl

/-- The first row shows as many clusters of the prompt as fit. The cursor stands behind the query,
or on the last shown column if that is before it, if and only if the column behind the query fits
into a word or what a word holds of it is not before the last shown column. Nothing is shown if a
row lacks room for its drawing, and only then. -/
theorem cursor_search {editor : Editor} (searching : editor.search.active = true)
    (word : editor.size.columns ≤ 65535) :
    let shown := (Compose.promptRow editor).drawing.fitting editor.size.columns
    let column := editor.search.promptHead.width + editor.search.query.width
    (editor.size.rows ≤ 65535 → (editor.compose.isSome ↔ editor.Drawable)) ∧
      ∀ composed ∈ editor.compose,
        composed.frame.row 0 = shown.cells ++ Row.blank (editor.size.columns - shown.total) ∧
        composed.cursor = min (column % 65536) (shown.total - 1) ∧
        (composed.cursor = min column (shown.total - 1) ↔
          column < 65536 ∨ shown.total - 1 ≤ column % 65536) := by
  intro shown column
  constructor
  · intro rows
    rw [compose_of_searching searching word rows, Option.isSome_ite]
  · intro composed found
    rw [compose, if_pos searching] at found
    obtain ⟨row, cursor⟩ := Compose.prompt_search word found
    have reported : composed.cursor = min (column % 65536) (shown.total - 1) := cursor
    have narrow : shown.total ≤ editor.size.columns := Drawing.total_fitting_le _ _
    exact ⟨row, reported, by omega⟩

/-- An editor that searches its history for a pasted text. -/
def searched (size : ScreenSize) (commands : List Text) (query : Text) : Editor :=
  let source := Source.onEmptyLine []
  ((started EditorOptions.standard [] size none).setHistory
      (commands.map fun command => ⟨command, []⟩)).run
    [(source, .key (.control 'r')), (source, .paste query)]

/-- On the widest screen the cursor stands behind a query of two characters. -/
theorem cursor_search_behind_query :
    let editor := searched ⟨65535, 24⟩ [Text.of "make test"] (Text.of "te")
    editor.search.active = true ∧ editor.size.columns ≤ 65535 ∧ editor.Drawable ∧
      editor.search.promptHead = Text.of "(reverse-i-search)[all/recent]`" ∧
      ∃ composed ∈ editor.compose,
        composed.cursor = editor.search.promptHead.width + editor.search.query.width := by
  intro editor
  have searching : editor.search.active = true := by decide +kernel
  have word : editor.size.columns ≤ 65535 := by decide +kernel
  have drawable : editor.Drawable := by decide +kernel
  have column : editor.search.promptHead.width + editor.search.query.width = 33 := by
    decide +kernel
  have last : ((Compose.promptRow editor).drawing.fitting editor.size.columns).total = 45 := by
    decide +kernel
  obtain ⟨composes, right⟩ := cursor_search searching word
  obtain ⟨composed, found⟩ :=
    Option.isSome_iff_exists.1 ((composes (by decide +kernel)).2 drawable)
  have reported := (right composed found).2.2.2 (.inl (by omega))
  exact ⟨searching, word, drawable, by decide +kernel, composed, found,
    reported.trans (by omega)⟩

theorem search_searched_of_nil (size : ScreenSize) {query : Text}
    (printed : ∀ c ∈ query, isControl c = false) (low : ∀ c ∈ query, c.toNat < 0xC0) :
    (searched size [] query).search = ⟨[], [], query, .all, .recent, [], 0, true, #[]⟩ := by
  have pasted : (searched size [] query).search =
      ((HistorySearch.idle .all .recent).enter [] []).setQuery ([] ++ query.singleLine) := rfl
  rw [pasted, Text.singleLine_eq_self printed low, List.nil_append]
  cases query with
  | nil => rfl
  | cons c rest => rfl

/-- With a query of 65505 letters the column behind it is the first that no word holds. The cursor
is back at the left edge, in front of the whole prompt. -/
theorem cursor_search_before_prompt :
    let editor := searched .standard [] (List.replicate 65505 'a')
    let shown := (Compose.promptRow editor).drawing.fitting editor.size.columns
    let column := editor.search.promptHead.width + editor.search.query.width
    editor.search.active = true ∧ editor.size = .standard ∧ column = 65536 ∧ 31 ≤ shown.total ∧
      ∃ composed ∈ editor.compose, composed.cursor = 0 ∧
        composed.cursor ≠ min column (shown.total - 1) := by
  intro editor shown column
  have letter : isSolid 'a' = true := by decide +kernel
  have query : Text.Solid (List.replicate 65505 'a') := Text.solid_replicate letter _
  have search : editor.search =
      ⟨[], [], List.replicate 65505 'a', .all, .recent, [], 0, true, #[]⟩ :=
    search_searched_of_nil .standard query.plain.clean fun c member => by
      rw [List.eq_of_mem_replicate member]
      decide
  have size : editor.size = .standard := rfl
  have searching : editor.search.active = true := by rw [search]
  have head : editor.search.promptHead.width = 31 := by
    have text : editor.search.promptHead = Text.of "(reverse-i-search)[all/recent]`" := by
      rw [search]
      rfl
    rw [text]
    decide +kernel
  have typed : editor.search.query.width = 65505 := by
    have single : Text.clusterWidth ['a'] = 1 := by decide
    rw [search, Text.width_replicate letter, single]
  have behind : column = 65536 := by omega
  have filled : 31 ≤ shown.total := by
    rw [← head]
    refine Compose.width_promptHead_le ?_ (by rw [head, size]; decide)
    rw [search]
    exact (query.append (by decide +kernel)).append fun c member => absurd member List.not_mem_nil
  have narrow : editor.size.columns ≠ 65535 := by rw [size]; decide
  have word : editor.size.columns ≤ 65535 := by rw [size]; decide
  have composition := compose_of_searching searching word (by rw [size]; decide)
  rw [if_pos (drawable_of_ne narrow)] at composition
  have cursor : Compose.promptCursor editor = 0 := by
    have wrapped : screenWord column = 0 := by rw [behind]; rfl
    exact Nat.le_zero.1 (wrapped ▸ Nat.min_le_left _ _)
  refine ⟨searching, size, behind, filled, _, composition, cursor, ?_⟩
  change Compose.promptCursor editor ≠ _
  omega

/-- A command is drawn cluster by cluster as far as there is room. A cluster is highlighted by its
own number, though the positions count characters. Whatever is matched, the highlighted clusters are
those with a matched character if and only if every shown cluster is one character. Nothing is shown
if a row lacks room for its drawing, and only then. -/
theorem highlight_search {editor : Editor} (searching : editor.search.active = true)
    (word : editor.size.columns ≤ 65535) (rows : editor.size.rows ≤ 65535) {place : Nat}
    {row : SearchRow} (listed : (Compose.shownMatches editor)[place]? = some row) :
    let shown := row.shown editor.size.columns
    (editor.compose.isSome ↔ editor.Drawable) ∧
      (∀ composed ∈ editor.compose, composed.frame.row (place + 1) =
        shown.cells ++ Row.blank (editor.size.columns - shown.total)) ∧
      (∀ number drawn, shown[number]? = some drawn →
        row.command.clusters[number]? = some drawn.1 ∧
          (drawn.2.IsHighlighted ↔ number ∈ row.positions)) ∧
      (row.MarksMatches editor.size.columns ↔
        ∀ number < shown.length, number ∈ row.positions ↔ row.Touches number) ∧
      ((∀ positions : List Nat, { row with positions }.MarksMatches editor.size.columns) ↔
        ∀ drawn ∈ shown, drawn.1.length = 1) := by
  intro shown
  refine ⟨?_, ?_, ?_, row.marksMatches_iff _, row.forall_marksMatches_iff _⟩
  · rw [compose_of_searching searching word rows, Option.isSome_ite]
  · intro composed found
    exact row_compose_of_searching searching word rows listed found
  · intro number drawn found
    obtain ⟨held, flags⟩ := SearchRow.getElem?_shown found
    exact ⟨held, by rw [flags, SearchRow.isHighlighted_searchFlags]⟩

/-- Of a command in single characters the matched ones are highlighted. -/
theorem highlight_search_of_letters :
    let editor := searched ⟨6, 4⟩ [Text.of "make"] (Text.of "ak")
    let row : SearchRow := ⟨Text.of "make", [], [1, 2], true⟩
    editor.search.active = true ∧ editor.size.columns ≤ 65535 ∧ editor.size.rows ≤ 65535 ∧
      (Compose.shownMatches editor)[0]? = some row ∧ row.MarksMatches editor.size.columns ∧
      ∃ composed ∈ editor.compose, composed.frame.row 1 =
        [.leader ['m'] 1 .reversed, .leader ['a'] 1 (.union .highlighted .reversed),
          .leader ['k'] 1 (.union .highlighted .reversed), .leader ['e'] 1 .reversed,
          .blank, .blank] := by
  intro editor row
  have searching : editor.search.active = true := by decide +kernel
  have word : editor.size.columns ≤ 65535 := by decide +kernel
  have rows : editor.size.rows ≤ 65535 := by decide +kernel
  have listed : (Compose.shownMatches editor)[0]? = some row := by decide +kernel
  obtain ⟨composes, drawn, -, -, right⟩ := highlight_search searching word rows listed
  obtain ⟨composed, found⟩ :=
    Option.isSome_iff_exists.1 (composes.2 (drawable_of_ne (by decide +kernel)))
  refine ⟨searching, word, rows, listed, right.2 (by decide +kernel) row.positions, composed, found,
    ?_⟩
  rw [drawn composed found]
  decide +kernel

/-- Behind a flag of two characters the position of the matched letter is the number of the next
letter, and the next letter is highlighted. -/
theorem highlight_search_behind_flag :
    let editor := searched ⟨5, 2⟩ [Text.of "🇫🇷ab"] (Text.of "a")
    let row : SearchRow := ⟨Text.of "🇫🇷ab", [], [2], true⟩
    editor.search.active = true ∧ (Compose.shownMatches editor)[0]? = some row ∧
      row.command.clusters = [Text.of "🇫🇷", ['a'], ['b']] ∧ row.Touches 1 ∧ ¬ row.Touches 2 ∧
      editor.compose.map (fun composed => composed.frame.row 1) = some
        [.leader (Text.of "🇫🇷") 2 .reversed, .continuation .reversed, .leader ['a'] 1 .reversed,
          .leader ['b'] 1 (.union .highlighted .reversed), .blank] ∧
      ¬ row.MarksMatches editor.size.columns := by
  intro editor row
  have touched : row.Touches 1 := by decide +kernel
  refine ⟨by decide +kernel, by decide +kernel, by decide +kernel, touched, by decide +kernel,
    by decide +kernel, fun marks => ?_⟩
  have shown : (row.shown editor.size.columns)[1]? = some (['a'], .reversed) := by decide +kernel
  exact absurd ((marks 1 _ shown).2 touched) (by decide)

end Editor

end Promptline
