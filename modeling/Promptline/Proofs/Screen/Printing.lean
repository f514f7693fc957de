/-
This file compares the texts that are printed for a row with the clusters that the row holds. The
clusters of one style are printed as one text, so a terminal finds them again only if they stay
apart there.
-/

import Mathlib.Data.List.DropRight
import Promptline.Proofs.Screen.Row
import Promptline.Proofs.Text.Joining
import Promptline.Proofs.Text.Lines
import Promptline.Screen.Paint

namespace Promptline

/-- The text that all clusters make up. -/
def Drawing.text (drawing : Drawing) : Text := drawing.flatMap Prod.fst

@[simp] theorem Drawing.text_append (first second : Drawing) :
    Drawing.text (first ++ second) = first.text ++ second.text := List.flatMap_append

@[simp] theorem Drawing.text_cons (drawn : Text × Flags) (rest : Drawing) :
    Drawing.text (drawn :: rest) = drawn.1 ++ rest.text := List.flatMap_cons

namespace Text

/-- Nothing is trimmed off a text that does not end with white space. -/
theorem trimEnd_append_eq_self (text : Text) {ending : Text} (opened : ending ≠ []) :
    trimEnd (text ++ ending) = text ++ ending ↔ ending.endsBlank = false := by
  obtain ⟨more, c, rfl⟩ := List.eq_nil_or_concat' ending |>.resolve_left opened
  change List.rdropWhile isBlank (text ++ (more ++ [c])) = _ ↔ _
  rw [← List.append_assoc, List.rdropWhile_concat, endsBlank, List.getLast?_concat]
  by_cases blank : isBlank c
  · have shorter := (List.rdropWhile_prefix isBlank (text ++ more)).length_le
    simp only [blank, if_true, Option.all_some, Bool.true_eq_false, iff_false]
    intro same
    rw [same, List.length_append, List.length_singleton] at shorter
    omega
  · simp [blank]

end Text

namespace Leader

/-- The cluster of the leader with its flags. -/
def drawn (leader : Leader) : Text × Flags := (leader.cell.cluster, leader.cell.flags)

/-- White space without flags looks like erased cells. -/
def isErased (leader : Leader) : Bool :=
  leader.cell.flags = .none && leader.cell.cluster.all isBlank

/-- The two leaders are not joined by a text that holds the cluster of one behind the other. -/
def Apart (leader next : Leader) : Prop :=
  leader.cell.flags = next.cell.flags → leader.cell.cluster.Apart next.cell.cluster

instance (leader next : Leader) : Decidable (leader.Apart next) :=
  inferInstanceAs (Decidable (_ → _))

end Leader

namespace Run

/-- The clusters that are found in the text of the run. -/
def drawn (run : Run) : Drawing := run.text.clusters.map fun cluster => (cluster, run.flags)

/-- What is left of the last run of a row. -/
def trimmed (run : Run) : Run :=
  if run.flags = .none then { run with text := run.text.trimEnd } else run

/-- The clusters that are found in what is printed of the runs of a row. -/
def printed : List Run → Drawing
  | [] => []
  | [last] => last.trimmed.drawn
  | run :: rest => run.drawn ++ printed rest

def ofLeaders (leaders : List Leader) : List Run := leaders.foldr join []

/-- A run that is followed by others is printed to its end. -/
theorem printed_cons (run : Run) {rest : List Run} (further : rest ≠ []) :
    printed (run :: rest) = run.drawn ++ printed rest := by
  cases rest with
  | nil => exact absurd rfl further
  | cons => rfl

theorem printed_concat (front : List Run) (last : Run) :
    printed (front ++ [last]) = front.flatMap drawn ++ last.trimmed.drawn := by
  induction front with
  | nil => rfl
  | cons run rest inductionHypothesis =>
      rw [List.cons_append, printed_cons run (List.append_ne_nil_of_right_ne_nil rest
        (List.cons_ne_nil last [])), inductionHypothesis, List.flatMap_cons, List.append_assoc]

theorem trimmed_eq_self_iff {run : Run} :
    run.trimmed = run ↔ (run.flags = .none → run.text.trimEnd = run.text) := by
  rw [trimmed]
  split
  next plain => exact ⟨fun same _ => congrArg Run.text same, fun same => by rw [same plain]⟩
  next styled => exact iff_of_true rfl fun plain => absurd plain styled

theorem text_drawn (run : Run) : run.drawn.text = run.text := by
  rw [drawn, Drawing.text, List.flatMap_map]
  change run.text.clusters.flatMap id = run.text
  rw [List.flatMap_id, Text.flatten_clusters]

theorem ne_nil_of_mem_drawn {run : Run} {drawn : Text × Flags} (member : drawn ∈ run.drawn) :
    drawn.1 ≠ [] := by
  obtain ⟨cluster, found, rfl⟩ := List.mem_map.1 member
  exact Text.ne_nil_of_mem_clusters found

theorem ne_nil_of_mem_printed {runs : List Run} {drawn : Text × Flags}
    (member : drawn ∈ printed runs) : drawn.1 ≠ [] := by
  induction runs with
  | nil => simp [printed] at member
  | cons run rest inductionHypothesis =>
      cases rest with
      | nil => exact ne_nil_of_mem_drawn member
      | cons =>
          rcases List.mem_append.1 member with first | later
          · exact ne_nil_of_mem_drawn first
          · exact inductionHypothesis later

theorem trimmed_text_isPrefix (run : Run) : run.trimmed.text <+: run.text := by
  rw [trimmed]
  split
  · exact List.rdropWhile_prefix isBlank run.text
  · exact List.prefix_rfl

theorem ofLeaders_cons (leader : Leader) (rest : List Leader) :
    ofLeaders (leader :: rest) = join leader (ofLeaders rest) := rfl

/-- The first run begins with the first leader. -/
theorem exists_ofLeaders_cons (leader : Leader) (rest : List Leader) :
    ∃ more others, ofLeaders (leader :: rest) =
      ⟨leader.column, leader.cell.flags, leader.cell.cluster ++ more⟩ :: others := by
  rw [ofLeaders_cons]
  cases ofLeaders rest with
  | nil => exact ⟨[], [], by rw [List.append_nil]; rfl⟩
  | cons run others =>
      simp only [join]
      split
      · exact ⟨_, _, rfl⟩
      · exact ⟨[], _, by rw [List.append_nil]⟩

/-- A further leader joins the last run if that has its flags, and else it opens a run. -/
def extend (leader : Leader) : List Run → List Run
  | [] => [⟨leader.column, leader.cell.flags, leader.cell.cluster⟩]
  | [last] =>
      if last.flags = leader.cell.flags then
        [{ last with text := last.text ++ leader.cell.cluster }]
      else [last, ⟨leader.column, leader.cell.flags, leader.cell.cluster⟩]
  | run :: rest => run :: extend leader rest

theorem extend_cons_cons (leader : Leader) (run next : Run) (rest : List Run) :
    extend leader (run :: next :: rest) = run :: extend leader (next :: rest) := rfl

/-- It does not matter whether the runs grow first on the left or on the right. -/
theorem join_extend (first leader : Leader) (runs : List Run) :
    join first (extend leader runs) = extend leader (join first runs) := by
  cases runs with
  | nil =>
      by_cases same : leader.cell.flags = first.cell.flags
      · simp [extend, join, same]
      · simp [extend, join, same, Ne.symm same]
  | cons run rest =>
      cases rest with
      | nil =>
          by_cases joined : run.flags = leader.cell.flags <;>
            by_cases same : run.flags = first.cell.flags <;> simp_all [extend, join]
      | cons next others =>
          rw [extend_cons_cons, join, join]
          split
          · cases others <;> rfl
          · rfl

theorem ofLeaders_concat (leaders : List Leader) (leader : Leader) :
    ofLeaders (leaders ++ [leader]) = extend leader (ofLeaders leaders) := by
  induction leaders with
  | nil => rfl
  | cons first rest inductionHypothesis =>
      rw [List.cons_append, ofLeaders_cons, inductionHypothesis, join_extend, ofLeaders_cons]

/-- The last run has the flags of the last leader, and it ends with the cluster. -/
theorem exists_extend_eq (leader : Leader) (runs : List Run) :
    ∃ front last text, extend leader runs = front ++ [last] ∧
      last.flags = leader.cell.flags ∧ last.text = text ++ leader.cell.cluster := by
  induction runs with
  | nil => exact ⟨[], _, [], rfl, rfl, rfl⟩
  | cons run rest inductionHypothesis =>
      cases rest with
      | nil =>
          rw [extend]
          split
          next same => exact ⟨[], _, run.text, rfl, same, rfl⟩
          · exact ⟨[run], _, [], rfl, rfl, rfl⟩
      | cons next others =>
          obtain ⟨front, last, text, grown, flags, ends⟩ := inductionHypothesis
          exact ⟨run :: front, last, text, congrArg (run :: ·) grown, flags, ends⟩

theorem extend_ne_nil (leader : Leader) (runs : List Run) : extend leader runs ≠ [] := by
  obtain ⟨front, last, _, grown, _⟩ := exists_extend_eq leader runs
  rw [grown]
  exact List.append_ne_nil_of_right_ne_nil front (List.cons_ne_nil last [])

/-- Nothing is printed of white space without flags at the end of a row. -/
theorem printed_extend_isErased {leader : Leader} (erased : leader.isErased = true)
    (runs : List Run) : printed (extend leader runs) = printed runs := by
  simp only [Leader.isErased, Bool.and_eq_true, decide_eq_true_eq, List.all_eq_true] at erased
  obtain ⟨plain, blank⟩ := erased
  have nothing : drawn (trimmed ⟨leader.column, leader.cell.flags, leader.cell.cluster⟩) = [] := by
    have empty := Text.trimEnd_append_gap [] blank
    rw [List.nil_append] at empty
    rw [trimmed, if_pos plain, drawn, empty]
    rfl
  induction runs with
  | nil => exact nothing
  | cons run rest inductionHypothesis =>
      cases rest with
      | nil =>
          rw [extend]
          split
          next same =>
            rw [printed, printed, trimmed, trimmed, if_pos (same.trans plain),
              if_pos (same.trans plain), Text.trimEnd_append_gap _ blank]
          next differ =>
            rw [plain] at differ
            rw [printed_cons run (List.cons_ne_nil _ _), printed, nothing, List.append_nil, printed,
              trimmed, if_neg differ]
      | cons next others =>
          rw [extend_cons_cons, printed_cons run (extend_ne_nil leader _), inductionHypothesis,
            printed_cons run (List.cons_ne_nil next others)]

/-- What is printed of a row is printed of its part before the white space at the end. -/
theorem printed_rdropWhile (leaders : List Leader) :
    printed (ofLeaders (leaders.rdropWhile Leader.isErased)) = printed (ofLeaders leaders) := by
  induction leaders using List.reverseRecOn with
  | nil => rfl
  | append_singleton leaders leader inductionHypothesis =>
      by_cases erased : leader.isErased = true
      · rw [List.rdropWhile_concat_pos _ _ _ erased, ofLeaders_concat,
          printed_extend_isErased erased, inductionHypothesis]
      · rw [List.rdropWhile_concat_neg _ _ _ erased]

/-- The runs hold the text of the leaders. -/
theorem text_flatMap_drawn (leaders : List Leader) :
    Drawing.text ((ofLeaders leaders).flatMap drawn) =
      Drawing.text (leaders.map Leader.drawn) := by
  induction leaders with
  | nil => rfl
  | cons leader rest inductionHypothesis =>
      rw [List.map_cons, Drawing.text_cons, ← inductionHypothesis, ofLeaders_cons]
      cases ofLeaders rest with
      | nil =>
          change Drawing.text
              (drawn ⟨leader.column, leader.cell.flags, leader.cell.cluster⟩ ++ []) =
            leader.cell.cluster ++ []
          rw [List.append_nil, text_drawn, List.append_nil]
      | cons run others =>
          simp only [join]
          split <;> simp [text_drawn, Leader.drawn]

/-- No more is printed than the leaders hold. -/
theorem text_printed_isPrefix (leaders : List Leader) :
    Drawing.text (printed (ofLeaders leaders)) <+: Drawing.text (leaders.map Leader.drawn) := by
  rw [← text_flatMap_drawn]
  rcases List.eq_nil_or_concat (ofLeaders leaders) with none | ⟨front, last, known⟩
  · rw [none]
    exact List.prefix_rfl
  · rw [known, List.concat_eq_append, printed_concat, List.flatMap_append, Drawing.text_append,
      Drawing.text_append, List.flatMap_singleton, text_drawn, text_drawn]
    exact (List.prefix_append_right_inj _).2 (trimmed_text_isPrefix last)

/-- The clusters of whole runs are the leaders again exactly if the leaders stay apart. -/
theorem flatMap_drawn_eq_iff {leaders : List Leader}
    (whole : ∀ leader ∈ leaders, leader.cell.cluster.clusters = [leader.cell.cluster]) :
    (ofLeaders leaders).flatMap drawn = leaders.map Leader.drawn ↔
      leaders.IsChain Leader.Apart := by
  induction leaders with
  | nil => simp [ofLeaders]
  | cons leader rest inductionHypothesis =>
      obtain ⟨single, others⟩ := List.forall_mem_cons.1 whole
      cases rest with
      | nil => simp [ofLeaders, join, drawn, single, Leader.drawn]
      | cons next more =>
          have following := others next List.mem_cons_self
          have known := inductionHypothesis others
          rw [List.isChain_cons_cons, ← known, List.map_cons, ofLeaders_cons]
          obtain ⟨text, runs, begun⟩ := exists_ofLeaders_cons next more
          rw [begun]
          by_cases same : leader.cell.flags = next.cell.flags
          · have joined : join leader
                (⟨next.column, next.cell.flags, next.cell.cluster ++ text⟩ :: runs) =
                ⟨leader.column, leader.cell.flags,
                  leader.cell.cluster ++ (next.cell.cluster ++ text)⟩ :: runs := by
              simp [join, same]
            by_cases apart : leader.cell.cluster.Apart next.cell.cluster
            · have cut := Text.clusters_append_of_apart single following apart text
              simp [joined, drawn, cut, Leader.drawn, Leader.Apart, apart, same]
            · obtain ⟨longer, others, cut, different⟩ :=
                Text.exists_clusters_append single following apart text
              simp [joined, drawn, cut, Leader.drawn, Leader.Apart, apart, same, different]
          · have opened : join leader
                (⟨next.column, next.cell.flags, next.cell.cluster ++ text⟩ :: runs) =
                ⟨leader.column, leader.cell.flags, leader.cell.cluster⟩ ::
                  ⟨next.column, next.cell.flags, next.cell.cluster ++ text⟩ :: runs := by
              simp [join, Ne.symm same]
            simp [opened, drawn, single, Leader.drawn, Leader.Apart, same]

end Run

namespace Row

/-- The leaders before the white space without flags at the end of the row. -/
def solid (row : Row) : List Leader := row.leaders.rdropWhile Leader.isErased

/-- The clusters that are found in what is printed of the row. -/
def printed (row : Row) : Drawing := Run.printed row.runs

/-- The clusters of the row are found again in what is printed of it: neighbours of equal flags stay
apart in one text, and a last cluster without flags does not end with white space, which is left
out. -/
structure Legible (row : Row) : Prop where
  apart : row.solid.IsChain Leader.Apart
  ended : ∀ last ∈ row.solid.getLast?, last.cell.flags = .none →
    last.cell.cluster.endsBlank = false

instance (row : Row) : Decidable row.Legible :=
  decidable_of_iff (row.solid.IsChain Leader.Apart ∧ ∀ last ∈ row.solid.getLast?,
      last.cell.flags = .none → last.cell.cluster.endsBlank = false)
    ⟨fun both => ⟨both.1, both.2⟩, fun legible => ⟨legible.apart, legible.ended⟩⟩

theorem printed_eq_solid (row : Row) : row.printed = Run.printed (Run.ofLeaders row.solid) :=
  (Run.printed_rdropWhile row.leaders).symm

theorem mem_leaders_of_mem_solid {row : Row} {leader : Leader} (member : leader ∈ row.solid) :
    leader ∈ row.leaders := (List.rdropWhile_prefix _ _).subset member

/-- The last of the leaders before the white space is no white space. -/
theorem isErased_of_solid_concat {row : Row} {leaders : List Leader} {leader : Leader}
    (solid : row.solid = leaders ++ [leader]) : leader.isErased = false := by
  by_contra erased
  have fixed : row.solid.rdropWhile Leader.isErased = row.solid := List.rdropWhile_idempotent _ _
  rw [solid, List.rdropWhile_concat_pos _ _ _ (Bool.not_eq_false _ ▸ erased)] at fixed
  have shorter := (List.rdropWhile_prefix Leader.isErased leaders).length_le
  rw [fixed, List.length_append, List.length_singleton] at shorter
  omega

/-- The clusters that are found in what is printed of a row are those of the row exactly if the row
is legible. -/
theorem legible_iff {row : Row}
    (whole : ∀ leader ∈ row.leaders, leader.cell.cluster.clusters = [leader.cell.cluster]) :
    row.Legible ↔ row.printed = row.solid.map Leader.drawn := by
  have single : ∀ leader ∈ row.solid, leader.cell.cluster.clusters = [leader.cell.cluster] :=
    fun leader member => whole leader (mem_leaders_of_mem_solid member)
  have chain := Run.flatMap_drawn_eq_iff single
  have text := Run.text_flatMap_drawn row.solid
  rw [printed_eq_solid]
  rcases List.eq_nil_or_concat row.solid with none | ⟨leaders, leader, known⟩
  · refine iff_of_true ⟨?_, ?_⟩ ?_ <;> simp [none, Run.ofLeaders, Run.printed]
  · rw [List.concat_eq_append] at known
    obtain ⟨front, last, before, runs, agree, ends⟩ :=
      Run.exists_extend_eq leader (Run.ofLeaders leaders)
    rw [← Run.ofLeaders_concat] at runs
    have ended : (∀ final ∈ row.solid.getLast?, final.cell.flags = .none →
        final.cell.cluster.endsBlank = false) ↔ last.trimmed = last := by
      have opened : leader.cell.cluster ≠ [] := by
        have held := single leader (by simp [known])
        rintro empty
        simp [empty, Text.clusters] at held
      rw [Run.trimmed_eq_self_iff, ends, Text.trimEnd_append_eq_self before opened, agree, known,
        List.getLast?_concat]
      simp
    rw [← known] at runs
    rw [runs, List.flatMap_append, List.flatMap_singleton] at chain text
    rw [runs, Run.printed_concat]
    constructor
    · rintro ⟨apart, shown⟩
      rw [ended.1 shown]
      exact chain.2 apart
    · intro same
      rw [← same, Drawing.text_append, Drawing.text_append, List.append_cancel_left_eq,
        Run.text_drawn, Run.text_drawn] at text
      have kept : last.trimmed = last := Run.trimmed_eq_self_iff.2 fun plain => by
        have cut : last.trimmed.text = last.text.trimEnd := by rw [Run.trimmed, if_pos plain]
        exact cut.symm.trans text.symm
      rw [kept] at same
      exact ⟨chain.1 same, ended.2 kept⟩

end Row

end Promptline
