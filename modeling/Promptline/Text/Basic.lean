/-
This file defines texts, their slices and the cuts that the other modules share.
-/

namespace Promptline

/-- A text is a list of Unicode scalar values, and every offset into it counts them. -/
abbrev Text := List Char

namespace Text

/-- The slice holds the characters from `start` up to `stop`, both cut to the text. -/
def slice (text : Text) (start stop : Nat) : Text := (text.take stop).drop start

@[simp] theorem length_slice (text : Text) (start stop : Nat) :
    (text.slice start stop).length = min stop text.length - start := by
  simp [slice]

theorem take_append_slice (text : Text) {start stop : Nat} (ordered : start ≤ stop) :
    text.take start ++ text.slice start stop = text.take stop := by
  have head : (text.take stop).take start = text.take start := by
    rw [List.take_take, Nat.min_eq_left ordered]
  rw [slice, ← head, List.take_append_drop]

/-- A text is cut into three at any two offsets in order. -/
theorem take_append_slice_append_drop (text : Text) {start stop : Nat} (ordered : start ≤ stop) :
    text.take start ++ text.slice start stop ++ text.drop stop = text := by
  rw [take_append_slice text ordered, List.take_append_drop]

/-- The size counts the bytes of the UTF-8 form. -/
def utf8Size (text : Text) : Nat := text.foldr (fun c size => c.utf8Size + size) 0

/-- The byte offset belongs to the character offset `index`, cut to the text. -/
def byteOffset (text : Text) (index : Nat) : Nat := utf8Size (text.take index)

/-- The text starts with `head`. -/
def startsWith (text head : Text) : Bool := head.isPrefixOf text

@[simp] theorem startsWith_iff {text head : Text} : text.startsWith head = true ↔ head <+: text :=
  List.isPrefixOf_iff_prefix

/-- The two texts agree on exactly these leading characters. -/
def sharedStart : Text → Text → Text
  | a :: first, b :: second => if a = b then a :: sharedStart first second else []
  | _, _ => []

theorem sharedStart_comm (first second : Text) :
    sharedStart first second = sharedStart second first := by
  induction first generalizing second with
  | nil => cases second <;> rfl
  | cons a first inductionHypothesis =>
      cases second with
      | nil => rfl
      | cons b second =>
          by_cases same : a = b
          · simp [sharedStart, same, inductionHypothesis]
          · simp [sharedStart, same, Ne.symm same]

theorem sharedStart_isPrefix (first second : Text) : sharedStart first second <+: first := by
  induction first generalizing second with
  | nil => simp [sharedStart]
  | cons a first inductionHypothesis =>
      cases second with
      | nil => simp [sharedStart]
      | cons b second =>
          by_cases same : a = b
          · simpa [sharedStart, same] using inductionHypothesis second
          · simp [sharedStart, same]

/-- No common start is longer than the shared one. -/
theorem isPrefix_sharedStart {head first second : Text} (startsFirst : head <+: first)
    (startsSecond : head <+: second) : head <+: sharedStart first second := by
  induction head generalizing first second with
  | nil => simp
  | cons c head inductionHypothesis =>
      obtain ⟨tail, rfl⟩ := startsFirst
      obtain ⟨tail', rfl⟩ := startsSecond
      simpa [sharedStart] using
        inductionHypothesis (List.prefix_append head tail) (List.prefix_append head tail')

/-- The common start of all texts is empty when there are none. -/
def commonStart : List Text → Text
  | [] => []
  | first :: rest => rest.foldl sharedStart first

theorem isPrefix_sharedStart_iff {head first second : Text} :
    head <+: sharedStart first second ↔ head <+: first ∧ head <+: second := by
  constructor
  · intro starts
    have startsSecond := starts
    rw [sharedStart_comm] at startsSecond
    exact ⟨starts.trans (sharedStart_isPrefix first second),
      startsSecond.trans (sharedStart_isPrefix second first)⟩
  · intro starts
    exact isPrefix_sharedStart starts.1 starts.2

/-- The common start is the longest text that all of them start with. -/
theorem isPrefix_commonStart_iff {head : Text} {texts : List Text} (nonempty : texts ≠ []) :
    head <+: commonStart texts ↔ ∀ text ∈ texts, head <+: text := by
  cases texts with
  | nil => exact absurd rfl nonempty
  | cons first rest =>
      rw [commonStart, List.forall_mem_cons]
      induction rest generalizing first with
      | nil => simp
      | cons second rest inductionHypothesis =>
          rw [List.foldl_cons, inductionHypothesis _ (List.cons_ne_nil _ _),
            isPrefix_sharedStart_iff, List.forall_mem_cons, and_assoc]

/-- The common start only depends on which texts there are. -/
theorem commonStart_congr {first second : List Text}
    (same : ∀ text, text ∈ first ↔ text ∈ second) : commonStart first = commonStart second := by
  by_cases nothing : first = []
  · subst nothing
    rw [List.eq_nil_iff_forall_not_mem.2 fun text member =>
      absurd ((same text).2 member) List.not_mem_nil]
  · have filled : second ≠ [] := by
      rintro rfl
      exact nothing (List.eq_nil_iff_forall_not_mem.2 fun text member =>
        absurd ((same text).1 member) List.not_mem_nil)
    have heads (head : Text) : head <+: commonStart first ↔ head <+: commonStart second := by
      rw [isPrefix_commonStart_iff nothing, isPrefix_commonStart_iff filled]
      exact forall_congr' fun text => by rw [same text]
    have before := (heads _).1 List.prefix_rfl
    have behind := (heads _).2 List.prefix_rfl
    exact before.eq_of_length_le behind.length_le

/-- The characters before and after the first separator. -/
def splitAt? (separator : Char) : Text → Option (Text × Text)
  | [] => none
  | c :: rest =>
      if c = separator then some ([], rest)
      else (splitAt? separator rest).map fun (before, after) => (c :: before, after)

/-- The pieces lie between separators, so there is one more piece than separators. -/
def pieces (separates : Char → Bool) (text : Text) : List Text :=
  text.foldr (fun c pieces =>
    if separates c then [] :: pieces
    else match pieces with
      | [] => [[c]]
      | piece :: others => (c :: piece) :: others) [[]]

theorem pieces_ne_nil (separates : Char → Bool) (text : Text) : pieces separates text ≠ [] := by
  cases text with
  | nil => simp [pieces]
  | cons c rest =>
      simp only [pieces, List.foldr_cons]
      split
      · simp
      · split <;> simp

theorem pieces_cons_of_separates {separates : Char → Bool} {c : Char}
    (separated : separates c = true) (rest : Text) :
    pieces separates (c :: rest) = [] :: pieces separates rest := by
  rw [pieces, List.foldr_cons, if_pos separated, pieces]

theorem pieces_cons_of_not_separates {separates : Char → Bool} {c : Char} {rest piece : Text}
    {others : List Text} (kept : separates c = false)
    (cut : pieces separates rest = piece :: others) :
    pieces separates (c :: rest) = (c :: piece) :: others := by
  rw [pieces] at cut
  rw [pieces, List.foldr_cons, if_neg (by simp [kept]), cut]

/-- A text without separators is one piece. -/
theorem pieces_eq_singleton {separates : Char → Bool} {piece : Text}
    (kept : ∀ c ∈ piece, separates c = false) : pieces separates piece = [piece] := by
  induction piece with
  | nil => rfl
  | cons c piece inductionHypothesis =>
      obtain ⟨kept, later⟩ := List.forall_mem_cons.1 kept
      exact pieces_cons_of_not_separates kept (inductionHypothesis later)

/-- The first piece ends at the first separator. -/
theorem pieces_append_cons {separates : Char → Bool} {piece : Text} {separator : Char}
    (kept : ∀ c ∈ piece, separates c = false) (separated : separates separator = true)
    (rest : Text) :
    pieces separates (piece ++ separator :: rest) = piece :: pieces separates rest := by
  induction piece with
  | nil => exact pieces_cons_of_separates separated rest
  | cons c piece inductionHypothesis =>
      obtain ⟨kept, later⟩ := List.forall_mem_cons.1 kept
      exact pieces_cons_of_not_separates kept (inductionHypothesis later)

/-- A line feed, or a carriage return and a line feed, ends a line. -/
def lines (text : Text) : List Text :=
  let all := pieces (· = '\n') text
  let ended := all.dropLast.map fun line =>
    if line.getLast? = some '\r' then line.dropLast else line
  match all.getLast? with
  | none | some [] => ended
  | some last => ended ++ [last]

/-- The joined text has `separator` between neighbours. -/
def join (separator : Text) : List Text → Text
  | [] => []
  | first :: rest => first ++ rest.flatMap (separator ++ ·)

/-- Texts are ordered by their code points, which is also the order of their UTF-8 bytes. -/
def le : Text → Text → Bool
  | [], _ => true
  | _ :: _, [] => false
  | a :: first, b :: second => a.val < b.val || (a = b && le first second)

/-- The literal is a text. -/
def of (literal : String) : Text := literal.toList

/-- The decimal digits of a number. -/
def ofNat (n : Nat) : Text := (toString n).toList

/-- Blanks on the left bring the text to the given length. -/
def padLeft (length : Nat) (text : Text) : Text :=
  List.replicate (length - text.length) ' ' ++ text

end Text

end Promptline
