/-
This file cuts a text into extended grapheme clusters by the rules of Unicode text segmentation. All
rules look back only inside the open cluster, so a cut forgets everything before it.
-/

import Promptline.Text.Basic
import Promptline.Text.Cluster.Class

namespace Promptline

/-- A conjunct is open after a consonant and linked once a linker has followed. -/
inductive ConjunctState where
  | none
  | opened
  | linked
  deriving DecidableEq, Repr

/-- The end of an open cluster decides which character may join it. -/
structure ClusterEnd where
  last : ClusterClass
  /-- The cluster ends with an odd number of regional indicators. -/
  oddRegional : Bool
  /-- The cluster ends with a pictograph and extending characters. -/
  afterPictograph : Bool
  /-- The cluster ends with a pictograph, extending characters and a joiner. -/
  joinedPictograph : Bool
  conjunct : ConjunctState
  deriving DecidableEq, Repr

namespace ClusterClass

/-- Line ends and control characters stand alone. -/
def standsAlone : ClusterClass → Bool
  | carriageReturn | lineFeed | control => true
  | _ => false

/-- Extending characters never open a cluster. -/
def extends_ : ClusterClass → Bool
  | extend | linker | nonJoiner => true
  | _ => false

/-- The parts of a Hangul syllable stay together. -/
def continuesSyllable : ClusterClass → ClusterClass → Bool
  | leading, leading | leading, vowel | leading, openSyllable | leading, closedSyllable => true
  | openSyllable, vowel | openSyllable, trailing | vowel, vowel | vowel, trailing => true
  | closedSyllable, trailing | trailing, trailing => true
  | _, _ => false

end ClusterClass

namespace ClusterEnd

/-- The end of a cluster that holds one character. -/
def start (first : ClusterClass) : ClusterEnd where
  last := first
  oddRegional := first = .regional
  afterPictograph := first = .pictograph
  joinedPictograph := false
  conjunct := if first = .consonant then .opened else .none

/-- The next character stays in the cluster. -/
def joins (tail : ClusterEnd) (next : ClusterClass) : Bool :=
  if tail.last = .carriageReturn ∧ next = .lineFeed then true
  else if tail.last.standsAlone || next.standsAlone then false
  else tail.last.continuesSyllable next
    || next.extends_ || next = .joiner || next = .spacingMark
    || tail.last = .prepend
    || (next = .consonant && tail.conjunct = .linked)
    || (next = .pictograph && tail.joinedPictograph)
    || (next = .regional && tail.oddRegional)

/-- The end of the cluster after the next character has joined. -/
def push (tail : ClusterEnd) (next : ClusterClass) : ClusterEnd where
  last := next
  oddRegional := next = .regional && !tail.oddRegional
  afterPictograph := next = .pictograph || (tail.afterPictograph && next.extends_)
  joinedPictograph := next = .joiner && tail.afterPictograph
  conjunct :=
    match next, tail.conjunct with
    | .consonant, _ => .opened
    | .linker, .opened | .linker, .linked => .linked
    | .extend, state | .joiner, state => state
    | _, _ => .none

end ClusterEnd

namespace Text

/-- The open cluster has `tail` as its end and holds `held`, the last character first. -/
def clustersFrom (tail : ClusterEnd) (held : Text) : Text → List Text
  | [] => [held.reverse]
  | c :: rest =>
      let next := ClusterClass.ofChar c
      if tail.joins next then clustersFrom (tail.push next) (c :: held) rest
      else held.reverse :: clustersFrom (.start next) [c] rest

/-- The extended grapheme clusters of a text, in order. -/
def clusters : Text → List Text
  | [] => []
  | c :: rest => clustersFrom (.start (ClusterClass.ofChar c)) [c] rest

theorem flatten_clustersFrom (tail : ClusterEnd) (held text : Text) :
    (clustersFrom tail held text).flatten = held.reverse ++ text := by
  induction text generalizing tail held with
  | nil => simp [clustersFrom]
  | cons c rest inductionHypothesis =>
      simp only [clustersFrom]
      split <;> simp [inductionHypothesis]

/-- A cut into clusters loses nothing. -/
@[simp] theorem flatten_clusters (text : Text) : text.clusters.flatten = text := by
  cases text with
  | nil => rfl
  | cons c rest => simp [clusters, flatten_clustersFrom]

theorem ne_nil_of_mem_clustersFrom {tail : ClusterEnd} {held text cluster : Text}
    (opened : held ≠ []) (found : cluster ∈ clustersFrom tail held text) : cluster ≠ [] := by
  induction text generalizing tail held with
  | nil => simp_all [clustersFrom]
  | cons c rest inductionHypothesis =>
      simp only [clustersFrom] at found
      split at found
      · exact inductionHypothesis (by simp) found
      · rcases List.mem_cons.1 found with rfl | later
        · simpa using opened
        · exact inductionHypothesis (by simp) later

/-- Every cluster holds a character. -/
theorem ne_nil_of_mem_clusters {text cluster : Text} (found : cluster ∈ text.clusters) :
    cluster ≠ [] := by
  cases text with
  | nil => simp [clusters] at found
  | cons c rest => exact ne_nil_of_mem_clustersFrom (by simp) found

end Text

end Promptline
