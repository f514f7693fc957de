/-
This file checks the tables of canonical decompositions and composites against each other. The parts
of a decomposition do not decompose any further, and a composite decomposes into the parts of the
first character and the second character.
-/

import Promptline.Proofs.Text.Canonical.Lookup
import Promptline.Text.SingleLine

namespace Promptline

/-- The code points of the full canonical decomposition. -/
def decomposition (n : Nat) : List Nat :=
  if 0xAC00 ≤ n ∧ n ≤ 0xD7A3 then hangulParts n else (tabulatedParts? n).getD [n]

theorem Text.decomposeChar_eq (c : Char) :
    decomposeChar c = (decomposition c.toNat).map Char.ofNat := by
  simp only [decomposeChar, decomposition]
  split
  · rfl
  · split
    next parts found => rw [found, Option.getD_some]
    next none => rw [none, Option.getD_none, List.map_singleton, Char.ofNat_toNat]

theorem ascends_lowDecompositions : Ascends lowDecompositions :=
  ascends_of_isChain (by decide +kernel)

theorem ascends_highDecompositions : Ascends highDecompositions :=
  ascends_of_isChain (by decide +kernel)

theorem ascends_ideographDecompositions : Ascends ideographDecompositions :=
  ascends_of_isChain (by decide +kernel)

def lowTree : CodeTree (List Nat) := (CodeTree.grow 9 lowDecompositions).1

def highTree : CodeTree (List Nat) := (CodeTree.grow 10 highDecompositions).1

/-- The two blocks of compatibility ideographs, each of which stands for one other ideograph. -/
def isCompatibility (n : Nat) : Bool :=
  (Nat.ble 0xF900 n && Nat.ble n 0xFAFF) || (Nat.ble 0x2F800 n && Nat.ble n 0x2FA1F)

def isSyllable (n : Nat) : Bool := Nat.ble 0xAC00 n && Nat.ble n 0xD7A3

/-- The parts that the trees give for a code point. -/
def treeParts? (n : Nat) : Option (List Nat) :=
  bif n.blt 0x1E00 then lowTree.find? n else highTree.find? n

theorem treeParts?_eq (n : Nat) :
    treeParts? n =
      if n < 0x1E00 then valueAt? lowDecompositions n else valueAt? highDecompositions n := by
  have less : n.blt 0x1E00 = decide (n < 0x1E00) := by simp [← Nat.blt_eq]
  simp only [treeParts?, less, cond_eq_ite, decide_eq_true_eq, lowTree, highTree]
  rw [CodeTree.find?_grow ascends_lowDecompositions (by decide +kernel),
    CodeTree.find?_grow ascends_highDecompositions (by decide +kernel)]

/-- Away from the ideographs and the syllables the trees tell the decomposition. -/
theorem decomposition_eq_treeParts {n : Nat} (other : isCompatibility n = false)
    (plain : isSyllable n = false) : decomposition n = (treeParts? n).getD [n] := by
  have outside : ¬ (0xAC00 ≤ n ∧ n ≤ 0xD7A3) := by
    rintro ⟨above, below⟩
    have inside : isSyllable n = true := by
      simp only [isSyllable, Bool.and_eq_true, Nat.ble_eq]
      exact ⟨above, below⟩
    exact Bool.false_ne_true (plain.symm.trans inside)
  have blocks : (ideographDecompositions.all fun row => isCompatibility row.1) = true := by
    decide +kernel
  have absent : valueAt? ideographDecompositions n = none := by
    refine valueAt?_eq_none fun row member same => ?_
    have inside := List.all_eq_true.1 blocks row member
    rw [same, other] at inside
    exact Bool.false_ne_true inside
  rw [decomposition, if_neg outside, tabulatedParts?, treeParts?_eq, absent, Option.map_none,
    Option.or_none]

/-- The code point is no control character and decomposes into itself only. -/
structure Element (n : Nat) : Prop where
  scalar : n.isValidChar
  alone : decomposition n = [n]
  printed : isControl (Char.ofNat n) = false

/-- The same by the trees. -/
def isElement (n : Nat) : Bool :=
  !isCompatibility n && !isSyllable n && (treeParts? n).isNone &&
    (n.blt 0xD800 || (Nat.ble 0xE000 n && n.blt 0x110000)) && Nat.ble 0x20 n &&
    (n.blt 0x7F || Nat.ble 0xA0 n)

theorem toNat_ofNat {n : Nat} (scalar : n.isValidChar) : (Char.ofNat n).toNat = n := by
  rw [Char.ofNat, dif_pos scalar]
  rfl

theorem element_of_isElement {n : Nat} (checked : isElement n = true) : Element n := by
  simp only [isElement, Bool.and_eq_true, Bool.or_eq_true, Bool.not_eq_true', Nat.blt_eq,
    Nat.ble_eq, Option.isNone_iff_eq_none] at checked
  obtain ⟨⟨⟨⟨⟨other, plain⟩, absent⟩, range⟩, above⟩, beside⟩ := checked
  have scalar : n.isValidChar := by
    rw [Nat.isValidChar]
    omega
  refine ⟨scalar, ?_, ?_⟩
  · rw [decomposition_eq_treeParts other plain, absent, Option.getD_none]
  · have value : (Char.ofNat n).val.toNat = n := toNat_ofNat scalar
    simp only [isControl, Bool.or_eq_false_iff, Bool.and_eq_false_iff, decide_eq_false_iff_not,
      UInt32.le_iff_toNat_le, value, UInt32.toNat_ofNat]
    omega

/-- No part in the tables decomposes any further. -/
theorem element_of_tabulatedParts? {n : Nat} {parts : List Nat}
    (found : tabulatedParts? n = some parts) {part : Nat} (member : part ∈ parts) :
    Element part := by
  have inLow : (lowDecompositions.all fun row => row.2.all isElement) = true := by
    decide +kernel
  have inHigh : (highDecompositions.all fun row => row.2.all isElement) = true := by
    decide +kernel
  have inBlocks : (ideographDecompositions.all fun row => isElement row.2) = true := by
    decide +kernel
  refine element_of_isElement ?_
  rw [tabulatedParts?] at found
  split at found
  · rw [valueAt?_eq_some_iff ascends_lowDecompositions] at found
    exact List.all_eq_true.1 (List.all_eq_true.1 inLow _ found) part member
  · rcases Option.or_eq_some_iff.1 found with high | ⟨_, block⟩
    · rw [valueAt?_eq_some_iff ascends_highDecompositions] at high
      exact List.all_eq_true.1 (List.all_eq_true.1 inHigh _ high) part member
    · obtain ⟨ideograph, stands, rfl⟩ := Option.map_eq_some_iff.1 block
      rw [valueAt?_eq_some_iff ascends_ideographDecompositions] at stands
      rw [List.mem_singleton.1 member]
      exact List.all_eq_true.1 inBlocks _ stands

/-- The parts of the syllables are in one block, which the tables leave out. -/
theorem element_of_jamo {n : Nat} (above : 0x1100 ≤ n) (below : n < 0x1200) : Element n := by
  have all : ((List.range' 0x1100 0x100).all isElement) = true := by decide +kernel
  refine element_of_isElement (List.all_eq_true.1 all n (List.mem_range'_1.2 ⟨above, ?_⟩))
  omega

theorem jamo_of_mem_hangulParts {n : Nat} (above : 0xAC00 ≤ n) (below : n ≤ 0xD7A3) {part : Nat}
    (member : part ∈ hangulParts n) : 0x1100 ≤ part ∧ part < 0x1200 := by
  simp only [hangulParts] at member
  split at member
  · simp only [List.mem_cons, List.not_mem_nil, or_false] at member
    omega
  · simp only [List.mem_cons, List.not_mem_nil, or_false] at member
    omega

/-- Either all parts are elements, or the character is its own part. -/
theorem decomposition_cases (n : Nat) :
    (∀ part ∈ decomposition n, Element part) ∨ decomposition n = [n] := by
  rw [decomposition]
  split
  next syllable =>
    refine .inl fun part member => ?_
    obtain ⟨above, below⟩ := jamo_of_mem_hangulParts syllable.1 syllable.2 member
    exact element_of_jamo above below
  next plain =>
    cases found : tabulatedParts? n with
    | none => exact .inr rfl
    | some parts => exact .inl fun part member => element_of_tabulatedParts? found member

/-- The composite decomposes into what the first code point decomposes into and the second one. -/
theorem decomposition_of_mem_compositionTable {first second composite : Nat}
    (member : (first, second, composite) ∈ compositionTable) :
    composite.isValidChar ∧ decomposition composite = decomposition first ++ [second] := by
  have all : (compositionTable.all fun row =>
      (treeParts? row.2.2).getD [row.2.2] == (treeParts? row.1).getD [row.1] ++ [row.2.1] &&
        !isCompatibility row.1 && !isSyllable row.1 && !isCompatibility row.2.2 &&
        row.2.2.blt 0x20000 && !(Nat.ble 0xAC00 row.2.2 && row.2.2.blt 0xE000)) = true := by
    decide +kernel
  have checked := List.all_eq_true.1 all _ member
  simp only [Bool.and_eq_true, Bool.not_eq_true', beq_iff_eq, Nat.blt_eq, Bool.and_eq_false_iff]
    at checked
  obtain ⟨⟨⟨⟨⟨parts, other⟩, plain⟩, other'⟩, range⟩, gap⟩ := checked
  have outside : composite < 0xAC00 ∨ 0xE000 ≤ composite := by
    rcases gap with below | above
    · exact .inl (Nat.lt_of_not_le fun large => by simp [Nat.ble_eq.mpr large] at below)
    · exact .inr (Nat.le_of_not_lt fun small => by simp [Nat.blt_eq.mpr small] at above)
  have plain' : isSyllable composite = false := by
    rw [Bool.eq_false_iff, Ne, isSyllable, Bool.and_eq_true, Nat.ble_eq, Nat.ble_eq]
    omega
  refine ⟨?_, ?_⟩
  · rw [Nat.isValidChar]
    omega
  · rw [decomposition_eq_treeParts other' plain', decomposition_eq_treeParts other plain, parts]

theorem decomposition_of_hangulComposite? {first second composite : Nat}
    (found : hangulComposite? first second = some composite) :
    composite.isValidChar ∧ decomposition composite = decomposition first ++ [second] := by
  rw [hangulComposite?] at found
  split at found
  next open_ =>
    obtain rfl := Option.some.inj found
    have alone : decomposition first = [first] := (element_of_jamo (by omega) (by omega)).alone
    refine ⟨?_, ?_⟩
    · rw [Nat.isValidChar]
      omega
    · rw [alone, decomposition, if_pos (by omega), hangulParts, if_pos (by omega)]
      simp only [List.cons_append, List.nil_append, List.cons.injEq, and_true]
      omega
  · split at found
    next closed =>
      obtain rfl := Option.some.inj found
      refine ⟨?_, ?_⟩
      · rw [Nat.isValidChar]
        omega
      · rw [decomposition, if_pos (by omega), hangulParts, if_neg (by omega), decomposition,
          if_pos (by omega), hangulParts, if_pos (by omega)]
        simp only [List.cons_append, List.nil_append, List.cons.injEq, and_true]
        omega
    · simp at found

theorem mem_of_compositionOf? {table : List (Nat × Nat × Nat)} {first second composite : Nat}
    (found : compositionOf? table first second = some composite) :
    (first, second, composite) ∈ table := by
  induction table with
  | nil => simp [compositionOf?] at found
  | cons row rest inductionHypothesis =>
      rw [compositionOf?] at found
      split at found
      · simp at found
      · split at found
        next both =>
          obtain ⟨rfl, rfl⟩ := both
          obtain rfl := Option.some.inj found
          exact List.mem_cons_self
        · exact List.mem_cons_of_mem row (inductionHypothesis found)

namespace Text

/-- The parts of a character do not decompose any further. -/
theorem decomposeChar_of_mem {c d : Char} (member : d ∈ decomposeChar c) :
    decomposeChar d = [d] := by
  rw [decomposeChar_eq] at member
  obtain ⟨part, found, rfl⟩ := List.mem_map.1 member
  rcases decomposition_cases c.toNat with elements | alone
  · have element := elements part found
    rw [decomposeChar_eq, toNat_ofNat element.scalar, element.alone, List.map_singleton]
  · rw [alone, List.mem_singleton] at found
    rw [found, Char.ofNat_toNat, decomposeChar_eq, alone, List.map_singleton, Char.ofNat_toNat]

/-- A character that is no control character has no control character among its parts. -/
theorem isControl_of_mem_decomposeChar {c d : Char} (member : d ∈ decomposeChar c)
    (printed : isControl c = false) : isControl d = false := by
  rw [decomposeChar_eq] at member
  obtain ⟨part, found, rfl⟩ := List.mem_map.1 member
  rcases decomposition_cases c.toNat with elements | alone
  · exact (elements part found).printed
  · rw [alone, List.mem_singleton] at found
    rwa [found, Char.ofNat_toNat]

/-- The first characters, with all control characters and the space, do not decompose. -/
theorem decomposeChar_of_lt {c : Char} (low : c.toNat < 0xC0) : decomposeChar c = [c] := by
  have all : ((List.range 0xC0).all fun n =>
      !isCompatibility n && !isSyllable n && (treeParts? n).isNone) = true := by decide +kernel
  have checked := List.all_eq_true.1 all _ (List.mem_range.2 low)
  simp only [Bool.and_eq_true, Bool.not_eq_true', Option.isNone_iff_eq_none] at checked
  obtain ⟨⟨other, plain⟩, absent⟩ := checked
  rw [decomposeChar_eq, decomposition_eq_treeParts other plain, absent, Option.getD_none,
    List.map_singleton, Char.ofNat_toNat]

/-- A composite decomposes into the parts of the first character and the second one. -/
theorem decomposeChar_of_primaryComposite? {starter c composite : Char}
    (found : primaryComposite? starter c = some composite) :
    decomposeChar composite = decomposeChar starter ++ [c] := by
  obtain ⟨code, known, rfl⟩ := Option.map_eq_some_iff.1 found
  obtain ⟨scalar, parts⟩ : code.isValidChar ∧
      decomposition code = decomposition starter.toNat ++ [c.toNat] := by
    rcases Option.or_eq_some_iff.1 known with syllable | ⟨_, tabulated⟩
    · exact decomposition_of_hangulComposite? syllable
    · exact decomposition_of_mem_compositionTable (mem_of_compositionOf? tabulated)
  rw [decomposeChar_eq, toNat_ofNat scalar, parts, List.map_append, ← decomposeChar_eq,
    List.map_singleton, Char.ofNat_toNat]

end Text

end Promptline
