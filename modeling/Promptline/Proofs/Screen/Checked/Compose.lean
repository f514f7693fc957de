/-
This file composes the frame of an editor with words that overflow. For every reachable editor the
composition fails exactly when a row has no room for its drawing, and otherwise the frame is in
order.
-/

import Promptline.Proofs.Editor.Reachable
import Promptline.Proofs.Screen.Checked.Frame
import Promptline.Proofs.Screen.Checked.Rows
import Promptline.Proofs.Screen.Tiling

namespace Promptline

namespace Compose

open Checked

/-- A cursor behind the end of the text fails. -/
def cursorColumn? (editor : Editor) : Option Nat := do
  let before ← slice? editor.buffer.shown 0 editor.buffer.cursor
  let column ← Text.width? before
  match editor.suffix? with
  | some (offset, suffix) =>
      if offset < editor.buffer.cursor then do
        let width ← suffix.width?
        sum? long column width
      else some column
  | none => some column

def lineColumn? (editor : Editor) : Option Nat := do
  let prompt ← editor.options.prompt.width?
  let shift ← cursorColumn? editor
  sum? long prompt shift

def edit? (editor : Editor) : Option Composed := do
  let columns := editor.size.columns
  let column ← lineColumn? editor
  let next ← sum? long column 1
  let skipped := next - columns
  let rows ← completionRows? editor
  let region := editor.size.box (screenWord rows.length)
  let height ← sum? short 1 region.height
  let line ← putScrolled? (.blank columns height) 0 skipped 0 0
    (Segment.clusters (segments editor.lineView))
  let frame ← drawRows? drawBoxRow? line region.row 0 (rows.take region.height)
  some ⟨frame, screenWord (min (column - skipped) (columns - 1))⟩

/-- The widths of the parts of the search prompt are added one by one. -/
def queryEnd? (search : HistorySearch) : Option Nat := do
  let start ← (Text.of "(reverse-i-search)[").width?
  let filter ← search.filter.label.width?
  let filtered ← sum? long start filter
  let separated ← sum? long filtered 1
  let sort ← search.sort.label.width?
  let sorted ← sum? long separated sort
  let quoted ← sum? long sorted 2
  let query ← search.query.width?
  sum? long quoted query

def search? (editor : Editor) : Option Composed := do
  let columns := editor.size.columns
  let region := editor.size.box editor.options.historyHeight
  let rows ← editor.search.rows? region.height
  let height ← sum? short 1 (screenWord rows.length)
  let text ← editor.search.prompt.truncate? columns
  let (prompt, last) ← (Frame.blank columns height).put? 0 0 text .none
  let frame ← drawRows? drawSearchRow? prompt region.row 0 rows
  let column ← queryEnd? editor.search
  let stop ← difference? (max last 1) 1
  some ⟨frame, min (screenWord column) stop⟩

theorem cursorColumn?_eq {editor : Editor} (inside : editor.buffer.cursor ≤ editor.buffer.length)
    (inMemory : editor.InMemory) :
    cursorColumn? editor = some editor.lineView.cursorColumn ∧
      editor.lineView.cursorColumn ≤ 4 * memory := by
  have before : slice? editor.buffer.shown 0 editor.buffer.cursor =
      some (editor.buffer.shown.take editor.buffer.cursor) := slice?_of_le (Nat.zero_le _) inside
  have short : (editor.buffer.shown.take editor.buffer.cursor).length ≤ memory :=
    Nat.le_trans (List.length_take_le' ..) inMemory.line
  have narrow := Text.width_le (editor.buffer.shown.take editor.buffer.cursor)
  have counted := @Text.width?_of_lt (editor.buffer.shown.take editor.buffer.cursor)
    (Nat.lt_of_le_of_lt (Nat.mul_le_mul_left 2 short) (by decide))
  have tails := inMemory.suffix
  simp only [cursorColumn?, before, counted, Option.bind_eq_bind, Option.bind_some,
    Editor.lineView]
  simp only [memory] at short tails ⊢
  cases shown : editor.suffix? with
  | none => exact ⟨rfl, by simp only; omega⟩
  | some tail =>
      obtain ⟨offset, suffix⟩ := tail
      have light : suffix.length ≤ 1152921504606846976 := tails _ shown
      have wide := suffix.width_le
      have added : suffix.width? = some suffix.width :=
        Text.width?_of_lt (by simp only [long]; omega)
      simp only [added, Option.bind_some]
      split
      · exact ⟨sum?_of_lt (by simp only [long]; omega), by omega⟩
      · exact ⟨rfl, by omega⟩

theorem lineColumn?_eq {editor : Editor} (inside : editor.buffer.cursor ≤ editor.buffer.length)
    (inMemory : editor.InMemory) :
    lineColumn? editor = some editor.lineView.column ∧ editor.lineView.column ≤ 6 * memory := by
  obtain ⟨shifted, near⟩ := cursorColumn?_eq inside inMemory
  have light := inMemory.prompt
  have wide := editor.options.prompt.width_le
  simp only [memory] at light near ⊢
  have prompt : editor.options.prompt.width? = some editor.options.prompt.width :=
    Text.width?_of_lt (by simp only [long]; omega)
  have reached : sum? long editor.options.prompt.width editor.lineView.cursorColumn =
      some editor.lineView.column := sum?_of_lt (by simp only [long]; omega)
  simp only [lineColumn?, prompt, shifted, reached, Option.bind_eq_bind, Option.bind_some,
    LineView.column, true_and]
  exact Nat.le_trans (Nat.add_le_add wide near) (by omega)

/-- The input line and its box are composed as they are without overflows. -/
theorem edit?_eq {editor : Editor} (inside : editor.buffer.cursor ≤ editor.buffer.length)
    (words : editor.InWords) (inMemory : editor.InMemory) : edit? editor = edit editor := by
  obtain ⟨column, near⟩ := lineColumn?_eq inside inMemory
  have rows : editor.size.rows < 65536 := words.rows
  have far : editor.lineView.column + 3 < long :=
    Nat.lt_of_le_of_lt (Nat.add_le_add_right near 3) (by decide)
  have next : sum? long editor.lineView.column 1 = some (editor.lineView.column + 1) :=
    sum?_of_lt (by omega)
  let region := editor.size.box (screenWord (completionRows editor).length)
  have below : region.height ≤ editor.size.rows - 1 := Nat.min_le_right _ _
  have height : sum? short 1 region.height = some (1 + region.height) :=
    sum?_of_lt (by simp only [short]; omega)
  have grid := Frame.grid_blank editor.size.columns (1 + region.height)
  simp only [edit?, edit, column, next, completionRows?_eq words inMemory, height, region,
    Option.bind_eq_bind, Option.bind_some]
  rw [putScrolled?_eq grid words.columns (by decide) (by omega) (Nat.zero_le _), Nat.sub_zero]
  apply Option.bind_congr
  intro line drawn
  have kept := grid_of_putAll grid words.columns (Nat.zero_le _) drawn
  have few := length_shownBox_le editor
  have shown : 1 + 0 + (shownBox editor).length ≤ 65536 := by omega
  have boxed := drawRows?_eq (agrees_drawBoxRow words.columns _) kept 1 shown
  exact congrArg (Option.bind · _) boxed

/-- The parts of the search prompt are as wide together as its head. -/
theorem sum_promptHead (filter : HistoryFilter) (sort : HistorySort) :
    (Text.of "(reverse-i-search)[").width + filter.label.width + 1 + sort.label.width + 2 =
        Text.width (Text.of "(reverse-i-search)[" ++ filter.label ++ Text.of "/" ++ sort.label ++
          Text.of "]`") ∧
      (Text.of "(reverse-i-search)[").length + filter.label.length + sort.label.length ≤ 100 := by
  cases filter <;> cases sort <;> decide +kernel

theorem queryEnd?_eq {search : HistorySearch} (light : search.query.length ≤ memory) :
    queryEnd? search = some (search.promptHead.width + search.query.width) := by
  obtain ⟨parts, small⟩ := sum_promptHead search.filter search.sort
  have start := Text.width_le (Text.of "(reverse-i-search)[")
  have filter := search.filter.label.width_le
  have sort := search.sort.label.width_le
  have query := search.query.width_le
  have measured : ∀ text : Text, text.length ≤ 100 ∨ text.length ≤ memory →
      text.width? = some text.width := fun text short =>
    Text.width?_of_lt (by simp only [memory, long] at short ⊢; omega)
  simp only [memory] at light
  have inside : (Text.of "(reverse-i-search)[").width + search.filter.label.width + 1 +
      search.sort.label.width + 2 + search.query.width < long := by
    simp only [long]
    omega
  rw [show search.promptHead.width = _ from parts.symm, queryEnd?,
    measured (Text.of "(reverse-i-search)[") (.inl (by omega)),
    measured search.filter.label (.inl (by omega)), measured search.sort.label (.inl (by omega)),
    measured search.query (.inr light)]
  simp only [Option.bind_eq_bind, Option.bind_some]
  rw [sum?_of_lt (by omega), Option.bind_some, sum?_of_lt (by omega), Option.bind_some,
    sum?_of_lt (by omega), Option.bind_some, sum?_of_lt (by omega), Option.bind_some,
    sum?_of_lt inside]

theorem length_query_le (search : HistorySearch) : search.query.length ≤ search.prompt.length := by
  simp only [HistorySearch.prompt, List.length_append]
  omega

/-- The search is composed as it is without overflows. -/
theorem search?_eq {editor : Editor} (words : editor.InWords) (inMemory : editor.InMemory) :
    search? editor = search editor := by
  have rows : editor.size.rows < 65536 := words.rows
  have light := inMemory.search
  have matched := inMemory.matched
  have query := Nat.le_trans (length_query_le editor.search) light
  simp only [memory] at light matched
  have shown : editor.search.rows? (editor.size.box editor.options.historyHeight).height =
      some (shownMatches editor) := HistorySearch.rows?_eq (by simp only [long]; omega) _
  have few := length_shownMatches_le editor
  have height : sum? short 1 (screenWord (shownMatches editor).length) =
      some (1 + screenWord (shownMatches editor).length) := by
    rw [screenWord, Nat.mod_eq_of_lt (by omega)]
    exact sum?_of_lt (by simp only [short]; omega)
  have cut := @Text.truncate?_of_lt editor.size.columns editor.search.prompt words.columns
    (by simp only [long]; omega)
  have grid := Frame.grid_blank editor.size.columns (1 + screenWord (shownMatches editor).length)
  rw [search_eq_bind]
  simp only [search?, shown, height, cut, queryEnd?_eq query, Option.bind_eq_bind,
    Option.bind_some]
  rw [grid.put?_eq words.columns (by decide) (Nat.zero_le _)]
  apply Option.bind_congr
  rintro ⟨prompt, last⟩ put
  have kept := (grid.put words.columns (Nat.zero_le _) put).1
  have below : 1 + 0 + (shownMatches editor).length ≤ 65536 := by omega
  have boxed := drawRows?_eq (agrees_drawSearchRow words.columns _) kept 1 below
  have stop : difference? (max last 1) 1 = some (max last 1 - 1) :=
    difference?_of_le (Nat.le_max_right ..)
  simp only [stop, Option.bind_some]
  exact congrArg (Option.bind · _) boxed

end Compose

namespace Editor

open Checked

def compose? (editor : Editor) : Option Composed :=
  if editor.search.active then Compose.search? editor else Compose.edit? editor

section Reachable

variable {editor : Editor}

/-- What the screen shows is composed as it is without overflows. -/
theorem compose?_eq (inside : editor.buffer.cursor ≤ editor.buffer.length)
    (words : editor.InWords) (inMemory : editor.InMemory) : editor.compose? = editor.compose := by
  rw [compose?, compose, Compose.search?_eq words inMemory,
    Compose.edit?_eq inside words inMemory]

/-- No index and no word leaves its bounds as long as every row has room for its drawing, and then
the frame is in order. Otherwise the column behind a cluster is no word, and nothing is shown. -/
theorem composed_of_reachable (reachable : editor.Reachable) (words : editor.InWords)
    (inMemory : editor.InMemory) :
    editor.compose? = editor.compose ∧
      (editor.Drawable → ∃ composed, editor.compose = some composed ∧
        composed.WellFormed editor.size (Compose.drawnRows editor)) ∧
      (¬ editor.Drawable → editor.compose = none) :=
  ⟨compose?_eq reachable.line.bounded.cursor_le words inMemory,
    wellFormed_compose (Nat.le_of_lt_succ words.columns) (Nat.le_of_lt_succ words.rows)⟩

end Reachable

/-- Two candidates, of which the first has a label. -/
def labelled (label : Text) : List Candidate :=
  [⟨Text.of "a", some label, none, none⟩, .ofValue (Text.of "b")]

/-- An editor on the widest screen that offers the two candidates. -/
def offering (label : Text) : Editor :=
  (started EditorOptions.standard [] ⟨65535, 3⟩ none).run
    [(.ofCandidates fun _ _ => labelled label, .key (.plain .tab))]

theorem reachable_offering (label : Text) : (offering label).Reachable :=
  (Reachable.started _ _ _ _).run _

theorem inWords_offering (label : Text) : (offering label).InWords where
  columns := Nat.lt_succ_self 65535
  rows := show 3 < short by decide
  completionHeight := show EditorOptions.standard.completionHeight < short by decide

theorem inMemory_offering {label : Text} (light : label.length < memory) :
    (offering label).InMemory where
  prompt := show EditorOptions.standard.prompt.length ≤ memory by decide
  line := show List.length ['a'] ≤ memory by decide
  suffix tail found := absurd found (Option.not_mem_none tail)
  help := Nat.zero_le memory
  candidates := show 2 ≤ memory by decide
  weights := show label.length + 0 + (1 + 0 + 0) ≤ memory from light
  search := show (HistorySearch.idle .all .recent).prompt.length ≤ memory by decide +kernel
  matched := Nat.zero_le memory

theorem arrange_labelled {label : Text} (width : label.width = 2) :
    CompletionBox.arrange (labelled label) (some 0) 65535 8 12 =
      ⟨12, 1, 2, 0, 1, [⟨0, 0, 0, label, none, true⟩, ⟨1, 0, 1, Text.of "b", none, false⟩]⟩ := by
  have letter : Text.width (Text.of "b") = 1 := by decide +kernel
  have item : CompletionBox.itemWidthOf (labelled label) 65535 12 = 12 := by
    simp [CompletionBox.itemWidthOf, labelled, Candidate.label, Candidate.ofValue, width, letter,
      screenWord]
  have single : CompletionBox.columnsOf (labelled label) 65535 8 12 = 1 := by
    simp [CompletionBox.columnsOf, labelled]
  simp only [CompletionBox.arrange, item, single]
  simp [labelled, CompletionBox.cellOf, screenWord, Candidate.label, Candidate.ofValue]

/-- The two candidates have a row each. -/
theorem completionRows_offering {label : Text} (width : label.width = 2) :
    Compose.completionRows (offering label) =
      [⟨label, .none, some (0, 2)⟩, ⟨Text.of "b", .none, none⟩] := by
  have letter : Text.width (Text.of "b") = 1 := by decide +kernel
  have boxed : (offering label).completion.isBoxed = true := rfl
  have helpless : (offering label).completion.help = [] := rfl
  have box : CompletionBox.arrange (offering label).completion.candidates
      (offering label).completion.selected? (offering label).size.columns
      (offering label).options.completionHeight (offering label).options.itemWidth = _ :=
    arrange_labelled width
  have columns : (offering label).size.columns = 65535 := rfl
  simp only [Compose.completionRows, boxed, helpless, Bool.not_true, Bool.false_eq_true, if_false,
    if_true, List.nil_append, List.length_nil, Nat.sub_zero, box]
  simp [columns, List.range_succ, Compose.boxRow, Compose.addCell, Compose.highlightOf,
    Compose.cutLabel, Compose.describe, Compose.blanks, Text.truncate, width, letter, screenWord]

/-- Below the input line both candidates are shown. -/
theorem drawnRows_offering {label : Text} (width : label.width = 2) :
    Compose.drawnRows (offering label) =
      [Compose.lineRow (offering label), (⟨label, .none, some (0, 2)⟩ : BoxRow).drawn,
        (⟨Text.of "b", .none, none⟩ : BoxRow).drawn] := by
  have editing : (offering label).search.active = false := rfl
  have size : (offering label).size = ⟨65535, 3⟩ := rfl
  simp [Compose.drawnRows, editing, Compose.shownBox, completionRows_offering width, size,
    ScreenSize.box, screenWord]

/-- A wide label has its room. -/
theorem composed_with_short_label :
    let editor := offering (Text.of "漢")
    editor.Reachable ∧ editor.InWords ∧ editor.InMemory ∧ editor.Drawable ∧
      ∃ composed, editor.compose? = some composed ∧ editor.compose = some composed ∧
        composed.WellFormed editor.size (Compose.drawnRows editor) := by
  intro editor
  have reachable : editor.Reachable := reachable_offering _
  have words : editor.InWords := inWords_offering _
  have inMemory : editor.InMemory := inMemory_offering (by decide)
  have drawable : editor.Drawable := by decide +kernel
  obtain ⟨alike, composes, -⟩ := composed_of_reachable reachable words inMemory
  obtain ⟨composed, found, ordered⟩ := composes drawable
  exact ⟨reachable, words, inMemory, drawable, composed, alike.trans found, found, ordered⟩

/-- Characters without a width, and a wide one behind them. -/
def hidden (count : Nat) : Text := List.replicate count '\x7f' ++ Text.of "漢"

theorem separate_hidden (count : Nat) : (hidden count).Separate := by
  induction count with
  | zero => decide +kernel
  | succ count inductionHypothesis =>
      cases count with
      | zero => decide +kernel
      | succ count => exact Text.separate_cons_cons.2 ⟨by decide +kernel, inductionHypothesis⟩

theorem width_hidden (count : Nat) : (hidden count).width = 2 := by
  have none : Text.clusterWidth ['\x7f'] = 0 := by decide +kernel
  have wide : Text.clusterWidth ['漢'] = 2 := by decide +kernel
  rw [(separate_hidden count).width_eq]
  simp [hidden, Text.of, none, wide]

/-- Every character takes a column of the row. -/
theorem total_hidden (count : Nat) (flags : Flags) :
    Drawing.total ((hidden count).clusters.map fun cluster => (cluster, flags)) = count + 2 := by
  have single : Text.drawnWidth ['\x7f'] = 1 := by decide +kernel
  have wide : Text.drawnWidth ['漢'] = 2 := by decide +kernel
  rw [separate_hidden count]
  simp [Drawing.total, hidden, Text.of, single, wide]

/-- The last character of the label has no room on the widest screen, and it is not dropped. -/
theorem overflow_with_long_label :
    let editor := offering (hidden 65534)
    editor.Reachable ∧ editor.InWords ∧ editor.InMemory ∧ editor.compose? = none ∧
      editor.compose = none := by
  intro editor
  have reachable : editor.Reachable := reachable_offering _
  have words : editor.InWords := inWords_offering _
  have inMemory : editor.InMemory := inMemory_offering (by
    rw [hidden, List.length_append, List.length_replicate]
    decide)
  have undrawable : ¬ editor.Drawable := by
    intro drawable
    rw [Drawable, drawnRows_offering (width_hidden _)] at drawable
    have inside := drawable _ (List.mem_cons_of_mem _ List.mem_cons_self) rfl
    rw [BoxRow.drawn, total_hidden] at inside
    omega
  have nothing : editor.compose = none :=
    (wellFormed_compose (Nat.le_of_lt_succ words.columns) (Nat.le_of_lt_succ words.rows)).2
      undrawable
  have alike := compose?_eq reachable.line.bounded.cursor_le words inMemory
  exact ⟨reachable, words, inMemory, alike.trans nothing, nothing⟩

end Editor

end Promptline
