/-
This file tells arrays from the other JSON values by their first character. The first character
gives the first token, and the first token opens the container that the value is in the end.
-/

import Promptline.Json

namespace Promptline.Json

theorem wordToken?_ne_openArray (word : Text) : wordToken? word ≠ some .openArray := by
  simp only [wordToken?]
  repeat' split
  all_goals simp

theorem unicodeMode?_ne_between (held : Text) (lead? : Option Nat) (value : Nat) :
    unicodeMode? held lead? value ≠ some .between := by
  simp only [unicodeMode?]
  repeat' split
  all_goals simp

namespace Lexer

/-- A character between two tokens is white space, a token, or the first one of a longer token. -/
theorem open?_cases {lexer opened : Lexer} {c : Char} (opens : lexer.open? c = some opened) :
    (isSpace c = true ∧ opened = lexer) ∨
      (∃ token, (token = .openArray → c = '[') ∧ opened = lexer.push token) ∨
      ∃ mode, mode ≠ .between ∧ opened = { lexer with mode } := by
  have pushed {token : Token} (other : token ≠ .openArray)
      (same : some (lexer.push token) = some opened) :
      ∃ token, (token = .openArray → c = '[') ∧ opened = lexer.push token :=
    ⟨token, fun bracket => absurd bracket other, (Option.some.inj same).symm⟩
  have moved {mode : LexMode} (begun : mode ≠ .between)
      (same : some { lexer with mode } = some opened) :
      ∃ mode, mode ≠ .between ∧ opened = { lexer with mode } :=
    ⟨mode, begun, (Option.some.inj same).symm⟩
  simp only [open?] at opens
  split at opens
  next space => exact .inl ⟨space, (Option.some.inj opens).symm⟩
  right
  split at opens
  next bracket => exact .inl ⟨.openArray, fun _ => bracket, (Option.some.inj opens).symm⟩
  repeat' split at opens
  all_goals first
    | exact .inl (pushed (by simp) opens)
    | exact .inr (moved (by simp) opens)
    | exact absurd opens (by simp)

/-- The first token has begun, and it is not the bracket of an array. -/
structure Begun (lexer : Lexer) : Prop where
  other : lexer.tokens.getLast? ≠ some .openArray
  started : lexer.tokens = [] → lexer.mode ≠ .between

/-- Behind the first token any other may stand. -/
theorem Begun.push {lexer : Lexer} (begun : lexer.Begun) {token : Token}
    (later : lexer.tokens = [] → token ≠ .openArray) :
    (lexer.push token).Begun ∧ (lexer.push token).tokens ≠ [] := by
  refine ⟨⟨?_, by simp [Lexer.push]⟩, by simp [Lexer.push]⟩
  cases held : lexer.tokens with
  | nil => simpa [Lexer.push, held] using later held
  | cons first rest =>
      have other := begun.other
      rw [held] at other
      simpa [Lexer.push, held] using other

theorem Begun.finish {lexer finished : Lexer} (begun : lexer.Begun)
    (ends : lexer.finish? = some finished) : finished.Begun ∧ finished.tokens ≠ [] := by
  simp only [finish?] at ends
  split at ends
  next between =>
    obtain rfl := Option.some.inj ends
    exact ⟨begun, fun nothing => begun.started nothing between⟩
  · obtain ⟨token, found, rfl⟩ := Option.map_eq_some_iff.1 ends
    exact begun.push fun _ bracket => wordToken?_ne_openArray _ (bracket ▸ found)
  · split at ends
    · obtain rfl := Option.some.inj ends
      exact begun.push (by simp)
    · simp at ends
  · simp at ends

theorem Begun.open {lexer opened : Lexer} (begun : lexer.Begun) (filled : lexer.tokens ≠ [])
    {c : Char} (opens : lexer.open? c = some opened) : opened.Begun := by
  rcases open?_cases opens with ⟨_, rfl⟩ | ⟨token, _, rfl⟩ | ⟨mode, _, rfl⟩
  · exact begun
  · exact (begun.push (absurd · filled)).1
  · exact ⟨begun.other, (absurd · filled)⟩

theorem Begun.step {lexer next : Lexer} (begun : lexer.Begun) {c : Char}
    (steps : lexer.step? c = some next) : next.Begun := by
  have moved {mode : LexMode} (longer : mode ≠ .between) : Begun { lexer with mode } :=
    ⟨begun.other, fun _ => longer⟩
  have closed (ends : (lexer.finish?.bind fun finished => finished.open? c) = some next) :
      next.Begun := by
    obtain ⟨finished, done, opens⟩ := Option.bind_eq_some_iff.1 ends
    obtain ⟨begun, filled⟩ := begun.finish done
    exact begun.open filled opens
  cases mode : lexer.mode with
  | between =>
      simp only [step?, mode] at steps
      exact begun.open (fun nothing => begun.started nothing mode) steps
  | word held =>
      simp only [step?, mode] at steps
      split at steps
      · obtain rfl := Option.some.inj steps
        exact moved (by simp)
      · exact closed steps
  | number held =>
      simp only [step?, mode] at steps
      split at steps
      · obtain rfl := Option.some.inj steps
        exact moved (by simp)
      · exact closed steps
  | string held =>
      simp only [step?, mode] at steps
      split at steps
      · obtain rfl := Option.some.inj steps
        exact (begun.push (by simp)).1
      · repeat' split at steps
        · obtain rfl := Option.some.inj steps
          exact moved (by simp)
        · simp at steps
        · obtain rfl := Option.some.inj steps
          exact moved (by simp)
  | escape held =>
      simp only [step?, mode] at steps
      split at steps
      · obtain rfl := Option.some.inj steps
        exact moved (by simp)
      · obtain ⟨character, _, rfl⟩ := Option.map_eq_some_iff.1 steps
        exact moved (by simp)
  | unicode held lead? value left =>
      simp only [step?, mode, Option.bind_eq_bind] at steps
      obtain ⟨digit, _, steps⟩ := Option.bind_eq_some_iff.1 steps
      cases left with
      | zero =>
          obtain ⟨after, found, same⟩ := Option.bind_eq_some_iff.1 steps
          obtain rfl := Option.some.inj same
          exact moved fun between => unicodeMode?_ne_between _ _ _ (between ▸ found)
      | succ left =>
          obtain rfl := Option.some.inj steps
          exact moved (by simp)
  | secondEscape held lead =>
      simp only [step?, mode, Option.ite_none_right_eq_some, Option.some.injEq] at steps
      obtain ⟨_, rfl⟩ := steps
      exact moved (by simp)
  | secondMark held lead =>
      simp only [step?, mode, Option.ite_none_right_eq_some, Option.some.injEq] at steps
      obtain ⟨_, rfl⟩ := steps
      exact moved (by simp)

theorem Begun.run {lexer last : Lexer} (begun : lexer.Begun) {text : Text}
    (runs : text.foldlM step? lexer = some last) : last.Begun := by
  induction text generalizing lexer with
  | nil =>
      obtain rfl := Option.some.inj runs
      exact begun
  | cons c rest inductionHypothesis =>
      rw [List.foldlM_cons] at runs
      obtain ⟨next, steps, runs⟩ := Option.bind_eq_some_iff.1 runs
      exact inductionHypothesis (begun.step steps) runs

end Lexer

/-- The first token is the bracket of an array only if the first character is. -/
theorem head?_of_tokens? {c : Char} (solid : isSpace c = false) {rest : Text} {tokens : List Token}
    (read : tokens? (c :: rest) = some (.openArray :: tokens)) : c = '[' := by
  obtain ⟨last, runs, read⟩ := Option.bind_eq_some_iff.1 read
  obtain ⟨finished, ends, read⟩ := Option.bind_eq_some_iff.1 read
  have first : finished.tokens.getLast? = some .openArray := by
    rw [← List.head?_reverse, Option.some.inj read, List.head?_cons]
  rw [List.foldlM_cons] at runs
  obtain ⟨next, opens, runs⟩ := Option.bind_eq_some_iff.1 runs
  refine Decidable.byContradiction fun other => ?_
  -- Any other first character begins a token that stays in front of all later ones.
  have begun : next.Begun := by
    rcases Lexer.open?_cases opens with ⟨space, _⟩ | ⟨token, bracket, rfl⟩ | ⟨mode, longer, rfl⟩
    · rw [solid] at space
      exact absurd space Bool.false_ne_true
    · refine ⟨?_, by simp [Lexer.push]⟩
      simpa [Lexer.push] using fun array => other (bracket array)
    · exact ⟨by simp, fun _ => longer⟩
  exact ((begun.run runs).finish ends).1.other first

/-- The container is an object, perhaps with an open member. -/
def Container.isObject : Container → Bool
  | .array _ => false
  | _ => true

namespace Reader

/-- The outermost container is an object. -/
def rooted (stack : List Container) : Bool := stack.getLast?.any Container.isObject

theorem rooted_cons_of_rooted {stack : List Container} (root : rooted stack = true)
    (container : Container) : rooted (container :: stack) = true := by
  cases stack with
  | nil => simp [rooted] at root
  | cons next outer => rwa [rooted, List.getLast?_cons_cons]

theorem rooted_cons_of_isObject {container container' : Container} {outer : List Container}
    (object : container'.isObject = true) (root : rooted (container :: outer) = true) :
    rooted (container' :: outer) = true := by
  cases outer with
  | nil => simpa [rooted] using object
  | cons next outer => rwa [rooted, List.getLast?_cons_cons] at root ⊢

/-- The value is going to be an object, or it is one. -/
inductive InObject : Reader → Prop where
  | inside {reader : Reader} (root : rooted reader.stack = true)
      (waits : ∀ value, reader.expectation ≠ .finished value) : InObject reader
  | finished (members : List (Text × Json)) : InObject ⟨[], .finished (.object members)⟩

theorem rooted_of_array {items : List Json} {outer : List Container}
    (root : rooted (.array items :: outer) = true) : rooted outer = true := by
  cases outer with
  | nil => simp [rooted, Container.isObject] at root
  | cons next outer => rwa [rooted, List.getLast?_cons_cons] at root

theorem inObject_of_deliver? {stack : List Container} {value : Json} {reader : Reader}
    (root : rooted stack = true) (delivered : deliver? stack value = some reader) :
    InObject reader := by
  simp only [deliver?] at delivered
  split at delivered
  · simp [rooted] at root
  · obtain rfl := Option.some.inj delivered
    exact .inside (rooted_cons_of_rooted (rooted_of_array root) _) (by simp)
  · obtain rfl := Option.some.inj delivered
    exact .inside (rooted_cons_of_isObject rfl root) (by simp)
  · simp at delivered

theorem inObject_of_value? {stack : List Container} {token : Token} {reader : Reader}
    (root : rooted stack = true) (read : value? stack token = some reader) : InObject reader := by
  have entered {container : Container} {expectation : Expectation}
      (waits : ∀ value, expectation ≠ .finished value)
      (opened : enter? stack container expectation = some reader) : InObject reader := by
    simp only [enter?, Option.ite_none_right_eq_some, Option.some.injEq] at opened
    obtain ⟨_, rfl⟩ := opened
    exact .inside (rooted_cons_of_rooted root container) waits
  cases token with
  | null | bool value | number literal | string value => exact inObject_of_deliver? root read
  | openArray | openObject => exact entered (by simp) read
  | _ => simp [value?] at read

theorem inObject_of_close? {stack : List Container} {token : Token} {reader : Reader}
    (root : rooted stack = true) (closed : close? stack token = some reader) :
    InObject reader := by
  simp only [close?] at closed
  split at closed
  · exact inObject_of_deliver? (rooted_of_array root) closed
  next members outer =>
    cases outer with
    | nil =>
        obtain rfl := Option.some.inj closed
        exact .finished _
    | cons next outer =>
        rw [rooted, List.getLast?_cons_cons] at root
        exact inObject_of_deliver? root closed
  · simp at closed

theorem inObject_of_name? {stack : List Container} {token : Token} {reader : Reader}
    (root : rooted stack = true) (named : name? stack token = some reader) : InObject reader := by
  simp only [name?] at named
  split at named
  · obtain rfl := Option.some.inj named
    exact .inside (rooted_cons_of_isObject rfl root) (by simp)
  · simp at named

theorem InObject.step {reader next : Reader} (within : InObject reader) {token : Token}
    (steps : reader.step? token = some next) : InObject next := by
  cases within with
  | finished members => simp [step?] at steps
  | inside root waits =>
      cases expected : reader.expectation with
      | value =>
          simp only [step?, expected] at steps
          exact inObject_of_value? root steps
      | valueOrClose =>
          simp only [step?, expected, Option.or_eq_some_iff] at steps
          rcases steps with closed | ⟨_, read⟩
          · exact inObject_of_close? root closed
          · exact inObject_of_value? root read
      | name =>
          simp only [step?, expected] at steps
          exact inObject_of_name? root steps
      | nameOrClose =>
          simp only [step?, expected, Option.or_eq_some_iff] at steps
          rcases steps with closed | ⟨_, named⟩
          · exact inObject_of_close? root closed
          · exact inObject_of_name? root named
      | colon =>
          simp only [step?, expected, Option.ite_none_right_eq_some, Option.some.injEq] at steps
          obtain ⟨_, rfl⟩ := steps
          exact .inside root (by simp)
      | commaOrClose =>
          simp only [step?, expected] at steps
          split at steps
          · split at steps
            all_goals
              obtain rfl := Option.some.inj steps
              exact .inside root (by simp)
          · exact inObject_of_close? root steps
      | finished value => exact absurd expected (waits value)

theorem InObject.run {reader last : Reader} (within : InObject reader) {tokens : List Token}
    (runs : tokens.foldlM step? reader = some last) : InObject last := by
  induction tokens generalizing reader with
  | nil =>
      obtain rfl := Option.some.inj runs
      exact within
  | cons token rest inductionHypothesis =>
      rw [List.foldlM_cons] at runs
      obtain ⟨next, steps, runs⟩ := Option.bind_eq_some_iff.1 runs
      exact inductionHypothesis (within.step steps) runs

/-- Behind a finished value no token may stand. -/
theorem eq_of_run_finished {value : Json} {tokens : List Token} {last : Reader}
    (runs : tokens.foldlM step? ⟨[], .finished value⟩ = some last) :
    last = ⟨[], .finished value⟩ := by
  cases tokens with
  | nil => exact (Option.some.inj runs).symm
  | cons token rest => simp [List.foldlM_cons, step?] at runs

/-- The value is an array only if its bracket is the first token. -/
theorem exists_of_array {tokens : List Token} {last : Reader}
    (runs : tokens.foldlM step? start = some last) {items : List Json}
    (array : last.expectation = .finished (.array items)) :
    ∃ rest, tokens = .openArray :: rest := by
  cases tokens with
  | nil =>
      obtain rfl := Option.some.inj runs
      simp [start] at array
  | cons token rest =>
      rw [List.foldlM_cons] at runs
      obtain ⟨next, steps, runs⟩ := Option.bind_eq_some_iff.1 runs
      have delivered {value : Json} (other : ∀ items, value ≠ .array items)
          (read : step? start token = some ⟨[], .finished value⟩) : False := by
        obtain rfl := Option.some.inj (steps.symm.trans read)
        rw [eq_of_run_finished runs] at array
        exact other items (Expectation.finished.inj array)
      cases token with
      | openArray => exact ⟨rest, rfl⟩
      | openObject =>
          obtain rfl := Option.some.inj steps
          cases InObject.run (.inside rfl (by simp)) runs with
          | inside root waits => exact absurd array (waits _)
          | finished members => simp at array
      | null | bool value | number literal | string value =>
          exact (delivered (by simp) rfl).elim
      | _ => simp [step?, start, value?] at steps

end Reader

/-- A text that starts with no white space is an array only if it starts with the bracket. -/
theorem eq_of_parse?_array {c : Char} (solid : isSpace c = false) {rest : Text} {items : List Json}
    (parsed : parse? (c :: rest) = some (.array items)) : c = '[' := by
  obtain ⟨tokens, read, parsed⟩ := Option.bind_eq_some_iff.1 parsed
  obtain ⟨last, runs, ends⟩ := Option.bind_eq_some_iff.1 parsed
  have array : last.expectation = .finished (.array items) := by
    split at ends
    next value finished => rw [finished, Option.some.inj ends]
    · simp at ends
  obtain ⟨tokens, rfl⟩ := Reader.exists_of_array runs array
  exact head?_of_tokens? solid read

theorem parse?_nil : parse? [] = none := rfl

end Promptline.Json
