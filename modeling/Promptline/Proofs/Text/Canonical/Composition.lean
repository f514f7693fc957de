/-
This file proves that composition is undone by decomposition. The composer keeps the decomposed text
up to the order of its marks, so a composed text decomposes and composes into itself.
-/

import Promptline.Proofs.Text.Canonical.Decomposition
import Promptline.Proofs.Text.Canonical.Order

namespace Promptline

namespace Text

theorem flatMap_decomposeChar {text : Text} (alone : ∀ c ∈ text, decomposeChar c = [c]) :
    text.flatMap decomposeChar = text := by
  rw [List.flatMap_congr alone, List.flatMap_singleton']

end Text

open Text

namespace Composer

/-- The characters of the composer in reading order. -/
def content (composer : Composer) : Text := composer.close.reverse

/-- The waiting marks are sorted, and no later mark of an ordered text has a smaller class. -/
structure Waits (composer : Composer) (last : Nat) : Prop where
  sorted : composer.marks.Pairwise fun later earlier =>
    combiningClass earlier ≤ combiningClass later
  mark : ∀ mark ∈ composer.marks, 0 < combiningClass mark ∧ combiningClass mark ≤ last
  alone : ∀ mark ∈ composer.marks, decomposeChar mark = [mark]
  opened : composer.starter? = none → composer.marks = []

variable {composer : Composer} {c : Char} {last : Nat}

theorem waits_of_marks_eq_nil (none : composer.marks = []) : composer.Waits last := by
  refine ⟨?_, ?_, ?_, fun _ => none⟩ <;> simp [none]

theorem waits_empty : empty.Waits 0 := waits_of_marks_eq_nil rfl

/-- Everything that a step can do. -/
theorem step_cases (composer : Composer) (c : Char) :
    (∃ starter composite, composer.starter? = some starter ∧ composer.blocks c = false ∧
      primaryComposite? starter c = some composite ∧
      composer.step c = { composer with starter? := some composite }) ∨
    (combiningClass c = 0 ∧ composer.starter? = none ∧
      composer.step c = { composer with starter? := some c }) ∨
    (combiningClass c = 0 ∧ composer.step c = ⟨composer.close, some c, []⟩) ∨
    (0 < combiningClass c ∧ composer.starter? = none ∧
      composer.step c = { composer with finished := c :: composer.finished }) ∨
    (0 < combiningClass c ∧ composer.starter? ≠ none ∧
      composer.step c = { composer with marks := c :: composer.marks }) := by
  cases open_ : composer.starter? with
  | none =>
      by_cases starter : combiningClass c = 0
      · exact .inr (.inl ⟨starter, rfl, by simp [step, open_, starter]⟩)
      · exact .inr (.inr (.inr (.inl
          ⟨Nat.pos_of_ne_zero starter, rfl, by simp [step, open_, starter]⟩)))
  | some starter =>
      cases joined : if composer.blocks c then none else primaryComposite? starter c with
      | some composite =>
          have stepped : composer.step c = { composer with starter? := some composite } := by
            simp only [step, open_, joined]
          rw [Option.ite_none_left_eq_some] at joined
          exact .inl ⟨starter, composite, rfl, Bool.eq_false_iff.2 joined.1, joined.2, stepped⟩
      | none =>
          by_cases opens : combiningClass c = 0
          · exact .inr (.inr (.inl ⟨opens, by simp only [step, open_, joined, if_pos opens]⟩))
          · exact .inr (.inr (.inr (.inr ⟨Nat.pos_of_ne_zero opens, Option.some_ne_none _,
              by simp only [step, open_, joined, if_neg opens]⟩)))

/-- A character that no mark blocks has a larger class than all waiting marks. -/
theorem lt_of_blocks (waits : composer.Waits last) (free : composer.blocks c = false) :
    ∀ mark ∈ composer.marks, combiningClass mark < combiningClass c := by
  intro mark member
  rw [blocks] at free
  cases same : composer.marks with
  | nil => simp [same] at member
  | cons latest earlier =>
      simp only [same, decide_eq_false_iff_not, Nat.not_le] at free
      have sorted := waits.sorted
      rw [same] at sorted member
      rcases List.mem_cons.1 member with rfl | found
      · exact free
      · exact Nat.lt_of_le_of_lt ((List.pairwise_cons.1 sorted).1 mark found) free

theorem waits_step (waits : composer.Waits last) (alone : decomposeChar c = [c])
    (follows : combiningClass c = 0 ∨ last ≤ combiningClass c) :
    (composer.step c).Waits (combiningClass c) := by
  rcases step_cases composer c with ⟨_, composite, _, free, _, stepped⟩ | ⟨_, closed, stepped⟩ |
    ⟨_, stepped⟩ | ⟨_, closed, stepped⟩ | ⟨mark, opened, stepped⟩ <;> rw [stepped]
  · exact ⟨waits.sorted, fun mark member =>
      ⟨(waits.mark mark member).1, Nat.le_of_lt (lt_of_blocks waits free mark member)⟩,
      waits.alone, fun open_ => (Option.some_ne_none _ open_).elim⟩
  · exact waits_of_marks_eq_nil (waits.opened closed)
  · exact waits_of_marks_eq_nil rfl
  · exact waits_of_marks_eq_nil (waits.opened closed)
  · have larger : ∀ earlier ∈ composer.marks, combiningClass earlier ≤ combiningClass c :=
      fun earlier member =>
        Nat.le_trans (waits.mark earlier member).2 (follows.resolve_left (Nat.ne_of_gt mark))
    refine ⟨List.pairwise_cons.2 ⟨larger, waits.sorted⟩, ?_, ?_, fun open_ => (opened open_).elim⟩
    · exact List.forall_mem_cons.2 ⟨⟨mark, Nat.le_refl _⟩, fun earlier member =>
        ⟨(waits.mark earlier member).1, larger earlier member⟩⟩
    · exact List.forall_mem_cons.2 ⟨alone, waits.alone⟩

/-- The character is added to the content or joins the starter behind which the marks wait. -/
theorem content_step (waits : composer.Waits last) (c : Char) :
    (composer.step c).content = composer.content ++ [c] ∨
      ∃ starter composite, composer.blocks c = false ∧
        primaryComposite? starter c = some composite ∧
        composer.content = composer.finished.reverse ++ starter :: composer.marks.reverse ∧
        (composer.step c).content =
          composer.finished.reverse ++ composite :: composer.marks.reverse := by
  rcases step_cases composer c with ⟨starter, composite, opened, free, joined, stepped⟩ |
    ⟨_, closed, stepped⟩ | ⟨_, stepped⟩ | ⟨_, closed, stepped⟩ | ⟨_, _, stepped⟩ <;> rw [stepped]
  · exact .inr ⟨starter, composite, free, joined, by simp [content, close, opened],
      by simp [content, close]⟩
  · exact .inl (by simp [content, close, closed, waits.opened closed])
  · exact .inl (by simp [content, close])
  · exact .inl (by simp [content, close, closed, waits.opened closed])
  · exact .inl (by simp [content, close])

/-- The decomposed content of the composer grows by the character, up to the order of the marks. -/
theorem canonicalOrder_content_step (waits : composer.Waits last) (alone : decomposeChar c = [c])
    (rest : Text) :
    canonicalOrder ((composer.step c).content.flatMap decomposeChar ++ rest) =
      canonicalOrder (composer.content.flatMap decomposeChar ++ c :: rest) := by
  rcases content_step waits c with added | ⟨starter, composite, free, joined, before, after⟩
  · rw [added, List.flatMap_append, List.flatMap_singleton, alone, List.append_assoc,
      List.singleton_append]
  · have larger := lt_of_blocks waits free
    have marks : composer.marks.reverse.flatMap decomposeChar = composer.marks.reverse :=
      flatMap_decomposeChar fun mark member => waits.alone mark (List.mem_reverse.1 member)
    rw [before, after, List.flatMap_append, List.flatMap_append, List.flatMap_cons,
      List.flatMap_cons, marks, decomposeChar_of_primaryComposite? joined]
    simp only [List.append_assoc, List.cons_append, List.nil_append]
    refine canonicalOrder_append_congr _ (canonicalOrder_append_congr _ ?_)
    -- The character was not blocked, so it has a larger class than the marks that it passes.
    cases same : composer.marks with
    | nil => rfl
    | cons latest earlier =>
        rw [← same]
        have mark : 0 < combiningClass c :=
          Nat.zero_lt_of_lt (larger latest (same ▸ List.mem_cons_self))
        refine canonicalOrder_move mark (fun other member => ?_) rest
        rw [List.mem_reverse] at member
        exact ⟨(waits.mark other member).1, Nat.ne_of_lt (larger other member)⟩

/-- A run over an ordered text keeps the decomposed text up to the order of the marks. -/
theorem canonicalOrder_content_run {text : Text} (waits : composer.Waits last)
    (alone : ∀ c ∈ text, decomposeChar c = [c]) (ordered : text.OrderedFrom last) :
    canonicalOrder ((text.foldl step composer).content.flatMap decomposeChar) =
      canonicalOrder (composer.content.flatMap decomposeChar ++ text) := by
  induction text generalizing composer last with
  | nil => rw [List.foldl_nil, List.append_nil]
  | cons c rest inductionHypothesis =>
      obtain ⟨single, others⟩ := List.forall_mem_cons.1 alone
      obtain ⟨follows, later⟩ := ordered
      rw [List.foldl_cons, inductionHypothesis (waits_step waits single follows) others later,
        canonicalOrder_content_step waits single]

end Composer

namespace Text

/-- The full canonical decomposition of a text, which is Unicode normalization form D. -/
def decomposed (text : Text) : Text := canonicalOrder (text.flatMap decomposeChar)

theorem decomposeChar_of_mem_decomposed {text : Text} {c : Char} (member : c ∈ text.decomposed) :
    decomposeChar c = [c] := by
  obtain ⟨_, _, part⟩ := List.mem_flatMap.1 (mem_canonicalOrder.1 member)
  exact decomposeChar_of_mem part

/-- Composition loses nothing of a decomposed text. -/
theorem decomposed_composed (text : Text) : text.composed.decomposed = text.decomposed := by
  calc text.composed.decomposed
      = canonicalOrder text.decomposed :=
        Composer.canonicalOrder_content_run Composer.waits_empty
          (fun _ member => decomposeChar_of_mem_decomposed member) (orderedFrom_canonicalOrder _)
    _ = text.decomposed := canonicalOrder_canonicalOrder _

/-- A composed text is composed already. -/
theorem composed_composed (text : Text) : text.composed.composed = text.composed :=
  congrArg compose (decomposed_composed text)

/-- The parts of the characters of a composed text come from the text. -/
theorem mem_flatMap_of_mem_composed {text : Text} {c : Char} (member : c ∈ text.composed)
    (alone : decomposeChar c = [c]) : c ∈ text.flatMap decomposeChar := by
  have decomposes : c ∈ text.composed.flatMap decomposeChar :=
    List.mem_flatMap.2 ⟨c, member, alone ▸ List.mem_cons_self⟩
  have kept : c ∈ text.decomposed := decomposed_composed text ▸ mem_canonicalOrder.2 decomposes
  exact mem_canonicalOrder.1 kept

end Text

end Promptline
