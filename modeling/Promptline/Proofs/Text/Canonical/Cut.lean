/-
This file proves where a text may be cut so that both parts compose on their own. Control characters
and spaces neither join a character before them nor take one after them.
-/

import Promptline.Proofs.Text.Canonical.Composition

namespace Promptline

open Text

/-- No mark moves over the character, and no starter takes it. -/
structure Opens (c : Char) : Prop where
  starter : combiningClass c = 0
  untaken : ∀ starter, primaryComposite? starter c = none

/-- The character stands alone in every composition. -/
structure Inert (c : Char) : Prop extends Opens c where
  alone : decomposeChar c = [c]
  takes : ∀ d, primaryComposite? c d = none

/-- The composites in the table are made of letters and signs above the controls, and of marks. -/
theorem range_of_mem_compositionTable {first second composite : Nat}
    (member : (first, second, composite) ∈ compositionTable) :
    0x20 < first ∧ (first < 0x7F ∨ 0x9F < first) ∧ 0x300 ≤ second := by
  have all : (compositionTable.all fun row =>
      Nat.blt 0x20 row.1 && (row.1.blt 0x7F || Nat.blt 0x9F row.1) && Nat.ble 0x300 row.2.1) =
        true := by
    decide +kernel
  have checked := List.all_eq_true.1 all _ member
  simp only [Bool.and_eq_true, Bool.or_eq_true, Nat.blt_eq, Nat.ble_eq] at checked
  exact ⟨checked.1.1, checked.1.2, checked.2⟩

theorem primaryComposite?_eq_none {a b : Char}
    (syllable : hangulComposite? a.toNat b.toNat = none)
    (absent : ∀ composite, (a.toNat, b.toNat, composite) ∉ compositionTable) :
    primaryComposite? a b = none := by
  cases found : compositionOf? compositionTable a.toNat b.toNat with
  | none => rw [primaryComposite?, syllable, found, Option.or_none, Option.map_none]
  | some composite => exact (absent composite (mem_of_compositionOf? found)).elim

/-- The characters before the first combining mark open a composition. -/
theorem opens_of_lt {c : Char} (low : c.toNat < 0x300) : Opens c := by
  refine ⟨combiningClass_of_lt low, fun starter => primaryComposite?_eq_none ?_ ?_⟩
  · rw [hangulComposite?, if_neg (by omega), if_neg (by omega)]
  · intro composite member
    obtain ⟨_, _, above⟩ := range_of_mem_compositionTable member
    omega

theorem inert_of_toNat {c : Char}
    (range : c.toNat ≤ 0x20 ∨ 0x7F ≤ c.toNat ∧ c.toNat ≤ 0x9F) : Inert c := by
  refine ⟨opens_of_lt (by omega), decomposeChar_of_lt (by omega), fun d =>
    primaryComposite?_eq_none ?_ ?_⟩
  · rw [hangulComposite?, if_neg (by omega), if_neg (by omega)]
  · intro composite member
    obtain ⟨above, beside, _⟩ := range_of_mem_compositionTable member
    omega

theorem inert_of_isControl {c : Char} (control : isControl c = true) : Inert c := by
  refine inert_of_toNat ?_
  have value : c.toNat = c.val.toNat := rfl
  simp only [isControl, Bool.or_eq_true, Bool.and_eq_true, decide_eq_true_eq,
    UInt32.le_iff_toNat_le, UInt32.toNat_ofNat] at control
  omega

theorem inert_space : Inert ' ' := inert_of_toNat (by decide)

namespace Composer

/-- The composer with more finished characters below its own. -/
def onto (base : Text) (composer : Composer) : Composer :=
  { composer with finished := composer.finished ++ base }

theorem close_onto (base : Text) (composer : Composer) :
    (composer.onto base).close = composer.close ++ base := by
  simp [onto, close]

theorem step_onto (base : Text) (composer : Composer) (c : Char) :
    (composer.onto base).step c = (composer.step c).onto base := by
  have blocked : (composer.onto base).blocks c = composer.blocks c := rfl
  have opened : (composer.onto base).starter? = composer.starter? := rfl
  cases same : composer.starter? with
  | none =>
      simp only [step, opened, same]
      split <;> rfl
  | some starter =>
      cases joined : if composer.blocks c then none else primaryComposite? starter c with
      | some composite =>
          simp only [step, opened, same, blocked, joined]
          rfl
      | none =>
          simp only [step, opened, same, blocked, joined, close_onto]
          split <;> rfl

theorem foldl_onto (base : Text) (composer : Composer) (text : Text) :
    text.foldl step (composer.onto base) = (text.foldl step composer).onto base := by
  induction text generalizing composer with
  | nil => rfl
  | cons c rest inductionHypothesis =>
      rw [List.foldl_cons, step_onto, inductionHypothesis, List.foldl_cons]

variable {composer : Composer} {c : Char}

/-- Marks wait only behind an open starter. -/
theorem marks_eq_nil_run {text : Text} (opened : composer.starter? = none → composer.marks = [])
    (closed : (text.foldl step composer).starter? = none) :
    (text.foldl step composer).marks = [] := by
  induction text generalizing composer with
  | nil => exact opened closed
  | cons c rest inductionHypothesis =>
      refine inductionHypothesis (fun later => ?_) closed
      rcases step_cases composer c with ⟨_, _, _, _, _, stepped⟩ | ⟨_, before, stepped⟩ |
        ⟨_, stepped⟩ | ⟨_, before, stepped⟩ | ⟨_, before, stepped⟩ <;> rw [stepped] at later ⊢
      · exact (Option.some_ne_none _ later).elim
      · exact opened before
      · exact opened before
      · exact (before later).elim

/-- A character that no starter takes begins again over what is finished. -/
theorem step_of_opens (opens : Opens c) (opened : composer.starter? = none → composer.marks = []) :
    composer.step c = (empty.step c).onto composer.close := by
  have begun : empty.step c = ⟨[], some c, []⟩ := by simp [step, empty, opens.starter]
  rw [begun]
  rcases step_cases composer c with ⟨starter, _, _, _, joined, _⟩ | ⟨_, closed, stepped⟩ |
    ⟨_, stepped⟩ | ⟨mark, _⟩ | ⟨mark, _⟩
  · rw [opens.untaken] at joined
    simp at joined
  · rw [stepped]
    simp [onto, close, closed, opened closed]
  · rw [stepped]
    rfl
  · exact (Nat.ne_of_gt mark opens.starter).elim
  · exact (Nat.ne_of_gt mark opens.starter).elim

/-- Behind a starter that takes nothing the marks are kept as without a starter. -/
theorem close_run_of_takes {starter : Char} (takes : ∀ d, primaryComposite? starter d = none)
    (marks text : Text) :
    (text.foldl step ⟨[], some starter, marks⟩).close =
      (text.foldl step ⟨marks, none, []⟩).close ++ [starter] := by
  induction text generalizing marks with
  | nil => simp [close]
  | cons c rest inductionHypothesis =>
      simp only [List.foldl_cons, step, takes, ite_self]
      split
      next opens =>
        rw [← close_onto, ← foldl_onto]
        simp [onto, close]
      next mark => exact inductionHypothesis (c :: marks)

end Composer

namespace Text

theorem compose_append_of_opens {c : Char} (opens : Opens c) (front back : Text) :
    (front ++ c :: back).compose = front.compose ++ compose (c :: back) := by
  simp only [compose, List.foldl_append, List.foldl_cons]
  rw [Composer.step_of_opens opens (Composer.marks_eq_nil_run fun _ => rfl), Composer.foldl_onto,
    Composer.close_onto, List.reverse_append]

/-- The text begins with a character that joins nothing before it. -/
def StartsAnew (text : Text) : Prop :=
  ∀ c ∈ text.head?, ∃ d ∈ (decomposeChar c).head?, Opens d

/-- A text may be cut before a character that joins nothing before it. -/
theorem composed_append {front back : Text} (anew : back.StartsAnew) :
    (front ++ back).composed = front.composed ++ back.composed := by
  cases back with
  | nil => rw [List.append_nil]; exact (List.append_nil _).symm
  | cons c rest =>
      obtain ⟨d, first, opens⟩ := anew c rfl
      obtain ⟨parts, decomposes⟩ : ∃ parts, decomposeChar c = d :: parts := by
        cases same : decomposeChar c with
        | nil => simp [same] at first
        | cons x parts =>
            rw [same] at first
            exact ⟨parts, by rw [Option.some.inj first]⟩
      have ordered (before : Text) :
          canonicalOrder ((before ++ c :: rest).flatMap decomposeChar) =
            before.decomposed ++ d :: canonicalOrder (parts ++ rest.flatMap decomposeChar) := by
        rw [List.flatMap_append, List.flatMap_cons, decomposes, List.cons_append,
          canonicalOrder_append_starter _ _ opens.starter, decomposed]
      have alone := ordered []
      rw [List.nil_append] at alone
      rw [composed, composed, composed, ordered, alone, compose_append_of_opens opens]
      rfl

theorem startsAnew_of_opens {c : Char} {rest : Text} (opens : Opens c)
    (alone : decomposeChar c = [c]) : StartsAnew (c :: rest) := by
  intro first member
  obtain rfl : c = first := Option.some.inj member
  exact ⟨c, by rw [alone]; rfl, opens⟩

/-- Basic letters and signs are composed already. -/
theorem composed_eq_self {text : Text} (low : ∀ c ∈ text, c.toNat < 0xC0) :
    text.composed = text := by
  induction text with
  | nil => rfl
  | cons c rest inductionHypothesis =>
      obtain ⟨first, others⟩ := List.forall_mem_cons.1 low
      have anew : StartsAnew rest := by
        intro d begins
        have later := others d (List.mem_of_mem_head? begins)
        have alone := decomposeChar_of_lt later
        exact ⟨d, by rw [alone]; rfl, opens_of_lt (Nat.lt_trans later (by decide))⟩
      have single : composed [c] = [c] := by
        have starter := combiningClass_of_lt (Nat.lt_trans first (by decide : 0xC0 < 0x300))
        simp [composed, decomposeChar_of_lt first, canonicalOrder, placeMark, compose,
          Composer.step, Composer.empty, Composer.close, starter]
      rw [← List.singleton_append, composed_append anew, single, inductionHypothesis others]

/-- An inert character stays where it is, and the texts around it compose on their own. -/
theorem composed_append_inert {c : Char} (inert : Inert c) (front back : Text) :
    (front ++ c :: back).composed = front.composed ++ c :: back.composed := by
  rw [composed_append (startsAnew_of_opens inert.toOpens inert.alone)]
  congr 1
  have ordered : decomposed (c :: back) = c :: back.decomposed := by
    rw [decomposed, List.flatMap_cons, inert.alone, List.singleton_append]
    exact placeMark_of_starter inert.starter _
  have begun : Composer.empty.step c = ⟨[], some c, []⟩ := by
    simp [Composer.step, Composer.empty, inert.starter]
  calc composed (c :: back)
      = ((back.decomposed.foldl Composer.step ⟨[], some c, []⟩).close).reverse := by
        rw [composed, ← decomposed, ordered, compose, List.foldl_cons, begun]
    _ = c :: back.composed := by
        rw [Composer.close_run_of_takes inert.takes, List.reverse_append]
        rfl

end Text

end Promptline
