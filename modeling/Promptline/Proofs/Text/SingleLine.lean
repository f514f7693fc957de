/-
This file proves when a text that entered the line is stable. The control characters are dropped
after the composition, so a dropped one may have kept two characters apart that would compose.
-/

import Promptline.Proofs.Text.Canonical.Cut

namespace Promptline.Text

/-- The text is in Unicode normalization form C. -/
def IsComposed (text : Text) : Prop := text.composed = text

instance (text : Text) : Decidable text.IsComposed := inferInstanceAs (Decidable (_ = _))

/-- The text on one line without any composition. -/
def folded (text : Text) : Text := (joinLineEnds text).filterMap onLine?

theorem onLine?_of_isControl {c : Char} (control : isControl c = true) :
    onLine? c = none ∨ onLine? c = some ' ' := by
  rw [onLine?, if_pos control]
  split
  · exact .inr rfl
  · exact .inl rfl

theorem onLine?_of_printed {c : Char} (printed : isControl c = false) : onLine? c = some c := by
  have kept : ¬ (c = '\n' ∨ c = '\r' ∨ c = '\t') := by
    rintro (rfl | rfl | rfl) <;> exact absurd printed (by decide)
  rw [onLine?, if_neg kept, if_neg (Bool.eq_false_iff.1 printed)]

theorem onLine?_of_mark {c : Char} (mark : 0 < combiningClass c) : onLine? c = some c := by
  refine onLine?_of_printed (Bool.eq_false_iff.2 fun control => ?_)
  exact Nat.ne_of_gt mark (inert_of_isControl control).starter

theorem filterMap_onLine?_of_printed {text : Text} (printed : ∀ c ∈ text, isControl c = false) :
    text.filterMap onLine? = text := by
  rw [List.filterMap_congr fun c member => onLine?_of_printed (printed c member)]
  exact List.filterMap_some

theorem joinLineEnds_of_printed {text : Text} (printed : ∀ c ∈ text, isControl c = false) :
    joinLineEnds text = text := by
  induction text using joinLineEnds.induct with
  | case1 rest _ => exact absurd (printed '\r' List.mem_cons_self) (by decide)
  | case2 c rest single inductionHypothesis =>
      rw [joinLineEnds.eq_2 _ _ single, inductionHypothesis (List.forall_mem_cons.1 printed).2]
  | case3 => rfl

/-- A text without control characters stays without them when it is composed. -/
theorem isControl_eq_false_of_mem_composed {text : Text}
    (printed : ∀ c ∈ text, isControl c = false) {c : Char} (member : c ∈ text.composed) :
    isControl c = false := by
  refine Bool.eq_false_iff.2 fun control => ?_
  have part := mem_flatMap_of_mem_composed member (inert_of_isControl control).alone
  obtain ⟨d, found, inside⟩ := List.mem_flatMap.1 part
  exact Bool.false_ne_true ((isControl_of_mem_decomposeChar inside (printed d found)).symm.trans
    control)

/-- A text without control characters is only composed. -/
theorem singleLine_of_printed {text : Text} (printed : ∀ c ∈ text, isControl c = false) :
    text.singleLine = text.composed := by
  rw [singleLine, joinLineEnds_of_printed printed, filterMap_onLine?_of_printed]
  exact fun c => isControl_eq_false_of_mem_composed printed

/-- Basic letters and signs stay as they are. -/
theorem singleLine_eq_self {text : Text} (printed : ∀ c ∈ text, isControl c = false)
    (low : ∀ c ∈ text, c.toNat < 0xC0) : text.singleLine = text := by
  rw [singleLine_of_printed printed, composed_eq_self low]

/-- It does not matter whether the characters are decomposed before they are put on a line. -/
theorem filterMap_onLine?_flatMap (text : Text) :
    (text.flatMap decomposeChar).filterMap onLine? =
      (text.filterMap onLine?).flatMap decomposeChar := by
  induction text with
  | nil => rfl
  | cons c rest inductionHypothesis =>
      rw [List.flatMap_cons, List.filterMap_append, inductionHypothesis]
      cases control : isControl c with
      | false =>
          have parts : (decomposeChar c).filterMap onLine? = decomposeChar c :=
            filterMap_onLine?_of_printed fun d inside =>
              isControl_of_mem_decomposeChar inside control
          rw [parts, List.filterMap_cons_some (onLine?_of_printed control), List.flatMap_cons]
      | true =>
          rw [(inert_of_isControl control).alone]
          rcases onLine?_of_isControl control with dropped | space
          · rw [List.filterMap_cons_none dropped, List.filterMap_cons_none dropped,
              List.filterMap_nil, List.nil_append]
          · rw [List.filterMap_cons_some space, List.filterMap_cons_some space, List.flatMap_cons,
              inert_space.alone, List.filterMap_nil]

/-- Composition before the control characters go does not count once they are gone. -/
theorem composed_filterMap_composed (text : Text) :
    composed (text.composed.filterMap onLine?) = composed (text.filterMap onLine?) := by
  have ordered (other : Text) : decomposed (other.filterMap onLine?) =
      canonicalOrder (other.decomposed.filterMap onLine?) := by
    rw [decomposed, decomposed, canonicalOrder_filterMap fun c mark => onLine?_of_mark mark,
      filterMap_onLine?_flatMap]
  change compose (decomposed _) = compose (decomposed _)
  rw [ordered, ordered, decomposed_composed]

theorem composed_singleLine (text : Text) : text.singleLine.composed = text.folded.composed :=
  composed_filterMap_composed (joinLineEnds text)

/-- Behind each control character that is dropped the line goes on with a character that joins
nothing before it, or it ends. -/
def Unshielded : Text → Prop
  | [] => True
  | c :: rest => (onLine? c = none → StartsAnew (rest.filterMap onLine?)) ∧ Unshielded rest

/-- The next character on the line is the same with and without the joined line ends. -/
theorem head?_folded (text : Text) : text.folded.head? = (text.filterMap onLine?).head? := by
  have space : onLine? '\n' = some ' ' ∧ onLine? '\r' = some ' ' := by decide
  induction text using joinLineEnds.induct with
  | case1 rest _ =>
      rw [folded, joinLineEnds, List.filterMap_cons_some space.1,
        List.filterMap_cons_some space.2, List.head?_cons, List.head?_cons]
  | case2 c rest single inductionHypothesis =>
      rw [folded, joinLineEnds.eq_2 _ _ single]
      cases kept : onLine? c with
      | none => rwa [List.filterMap_cons_none kept, List.filterMap_cons_none kept]
      | some d => rw [List.filterMap_cons_some kept, List.filterMap_cons_some kept]; rfl
  | case3 => rfl

theorem unshielded_joinLineEnds {text : Text} (unshielded : text.Unshielded) :
    (joinLineEnds text).Unshielded := by
  induction text using joinLineEnds.induct with
  | case1 rest inductionHypothesis =>
      refine ⟨fun dropped => absurd dropped (by decide), ?_⟩
      exact inductionHypothesis unshielded.2.2
  | case2 c rest single inductionHypothesis =>
      rw [joinLineEnds.eq_2 _ _ single]
      refine ⟨fun dropped => ?_, inductionHypothesis unshielded.2⟩
      rw [StartsAnew, ← folded, head?_folded]
      exact unshielded.1 dropped
  | case3 => trivial

/-- Where no dropped character kept its neighbours apart, it may be dropped before or after. -/
theorem filterMap_onLine?_composed {text : Text} (unshielded : text.Unshielded) :
    text.composed.filterMap onLine? = composed (text.filterMap onLine?) := by
  suffices aside : ∀ front : Text, (∀ c ∈ front, isControl c = false) →
      (front ++ text).composed.filterMap onLine? = composed (front ++ text.filterMap onLine?) from
    aside [] fun _ member => (List.not_mem_nil member).elim
  induction text with
  | nil =>
      intro front printed
      rw [List.append_nil, List.filterMap_nil, List.append_nil]
      exact filterMap_onLine?_of_printed fun c => isControl_eq_false_of_mem_composed printed
  | cons c rest inductionHypothesis =>
      intro front printed
      obtain ⟨anew, later⟩ := unshielded
      cases control : isControl c with
      | false =>
          have longer : ∀ d ∈ front ++ [c], isControl d = false :=
            List.forall_mem_append.2 ⟨printed, by simpa using control⟩
          have next := inductionHypothesis later (front ++ [c]) longer
          rw [List.append_assoc, List.append_assoc] at next
          rw [List.filterMap_cons_some (onLine?_of_printed control)]
          exact next
      | true =>
          have before : front.composed.filterMap onLine? = front.composed :=
            filterMap_onLine?_of_printed fun d => isControl_eq_false_of_mem_composed printed
          have behind := inductionHypothesis later [] fun _ member =>
            (List.not_mem_nil member).elim
          rw [List.nil_append, List.nil_append] at behind
          rw [composed_append_inert (inert_of_isControl control), List.filterMap_append, before]
          rcases onLine?_of_isControl control with dropped | space
          · rw [List.filterMap_cons_none dropped, List.filterMap_cons_none dropped, behind,
              composed_append (anew dropped)]
          · rw [List.filterMap_cons_some space, List.filterMap_cons_some space, behind,
              composed_append_inert inert_space]

/-- A text on the line has no control characters. It is stable exactly if it is composed, which it
is exactly if the control characters could as well have gone before the composition. -/
theorem singleLine_stable (text : Text) :
    (∀ c ∈ text.singleLine, isControl c = false) ∧
    text.singleLine.singleLine = text.folded.composed ∧
    (text.singleLine.IsComposed ↔ text.singleLine = text.folded.composed) ∧
    (text.singleLine.singleLine = text.singleLine ↔ text.singleLine.IsComposed) ∧
    text.singleLine.singleLine.singleLine = text.singleLine.singleLine ∧
    (text.Unshielded → text.singleLine.IsComposed) := by
  have printed : ∀ c ∈ text.singleLine, isControl c = false := fun _ member =>
    isControl_eq_false_of_mem_singleLine member
  have again : text.singleLine.singleLine = text.folded.composed := by
    rw [singleLine_of_printed printed, composed_singleLine]
  have twice : text.singleLine.singleLine.singleLine = text.singleLine.singleLine := by
    rw [singleLine_of_printed fun _ member => isControl_eq_false_of_mem_singleLine member, again,
      composed_composed]
  refine ⟨printed, again, ?_, ?_, twice, fun unshielded => ?_⟩
  · rw [IsComposed, composed_singleLine]
    exact eq_comm
  · rw [again, ← composed_singleLine, IsComposed]
  · rw [IsComposed, composed_singleLine]
    exact (filterMap_onLine?_composed (unshielded_joinLineEnds unshielded)).symm

/-- The bell is dropped before a letter, which joins nothing. -/
theorem singleLine_stable_over_bell :
    Unshielded ['e', '\u0301', '\x07', 'y'] ∧
      singleLine ['e', '\u0301', '\x07', 'y'] = ['é', 'y'] ∧
      IsComposed (singleLine ['e', '\u0301', '\x07', 'y']) := by
  have unshielded : Unshielded ['e', '\u0301', '\x07', 'y'] := by
    have letter : StartsAnew ['y'] :=
      startsAnew_of_opens (opens_of_lt (by decide)) (decomposeChar_of_lt (by decide))
    refine ⟨fun dropped => ?_, fun dropped => ?_, fun _ => letter, fun dropped => ?_, trivial⟩
    all_goals exact absurd dropped (by decide)
  exact ⟨unshielded, by decide +kernel,
    (singleLine_stable ['e', '\u0301', '\x07', 'y']).2.2.2.2.2 unshielded⟩

/-- The bell kept the accent off the letter, and without it the two compose. -/
theorem singleLine_not_composed_over_bell :
    singleLine ['e', '\x07', '\u0301'] = ['e', '\u0301'] ∧
      ¬ IsComposed (singleLine ['e', '\x07', '\u0301']) ∧
      singleLine (singleLine ['e', '\x07', '\u0301']) = ['é'] := by
  decide +kernel

end Promptline.Text
