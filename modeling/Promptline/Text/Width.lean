/-
This file measures texts in terminal columns. A cluster takes zero, one or two columns, and the
width of a text is the sum over its clusters.
-/

import Promptline.Text.Blank
import Promptline.Text.Cluster
import Promptline.Text.Wide

namespace Promptline

/-- Regional indicators form flags in pairs. -/
def isRegional (c : Char) : Bool := 0x1F1E6 ≤ c.val && c.val ≤ 0x1F1FF

/-- Skin tones change the pictograph before them. -/
def isSkinTone (c : Char) : Bool := 0x1F3FB ≤ c.val && c.val ≤ 0x1F3FF

/-- The main pictograph blocks and the old symbols are drawn as pictures. -/
def isPicture (c : Char) : Bool :=
  (0x1F300 ≤ c.val && c.val ≤ 0x1FAFF) || (0x2600 ≤ c.val && c.val ≤ 0x27BF)

/-- The blocks of combining diacritical marks. -/
def isDiacritic (c : Char) : Bool :=
  (0x0300 ≤ c.val && c.val ≤ 0x036F) || (0x1AB0 ≤ c.val && c.val ≤ 0x1AFF) ||
    (0x1DC0 ≤ c.val && c.val ≤ 0x1DFF) || (0x20D0 ≤ c.val && c.val ≤ 0x20FF) ||
    (0xFE20 ≤ c.val && c.val ≤ 0xFE2F)

/-- The keycap frame closes a keycap sequence. -/
def keycap : Char := '\u20E3'

namespace Text

/-- A cluster of several characters is drawn as one picture. -/
def isPictureCluster (cluster : Text) : Bool :=
  cluster.contains keycap || cluster.countP isRegional = 2 || cluster.any isSkinTone ||
    cluster.any isPicture

/-- A cluster with a picture or a flag letter always takes two columns. -/
def widened (cluster : Text) : Bool := cluster.any fun c => isPicture c || isRegional c

/-- The columns of one cluster. -/
def clusterWidth (cluster : Text) : Nat :=
  match cluster with
  | [] => 0
  | [c] => if isControl c then 0 else if isWide c || cluster.widened then 2 else 1
  | base :: _ =>
      if cluster.isPictureCluster then 2
      else if cluster.any isDiacritic then if isWide base || cluster.widened then 2 else 1
      else if cluster.any isWide || cluster.widened then 2 else 1

theorem clusterWidth_le (cluster : Text) : cluster.clusterWidth ≤ 2 := by
  unfold clusterWidth
  repeat' split
  all_goals omega

/-- The columns of a text. -/
def width (text : Text) : Nat :=
  text.clusters.foldr (fun cluster width => clusterWidth cluster + width) 0

/-- The longest run of leading clusters that takes at most `room` columns. -/
def takeWidth (room : Nat) : List Text → Text
  | [] => []
  | cluster :: rest =>
      if cluster.clusterWidth ≤ room then cluster ++ takeWidth (room - cluster.clusterWidth) rest
      else []

theorem takeWidth_isPrefix (room : Nat) (clusters : List Text) :
    takeWidth room clusters <+: clusters.flatten := by
  induction clusters generalizing room with
  | nil => exact List.prefix_rfl
  | cons cluster rest inductionHypothesis =>
      simp only [takeWidth, List.flatten_cons]
      split
      · exact (List.prefix_append_right_inj cluster).2 (inductionHypothesis _)
      · exact List.nil_prefix

/-- The ellipsis marks a cut. -/
def ellipsis : Char := '…'

/-- A text that is too wide is cut between clusters and marked, if there is room for the mark. -/
def truncate (limit : Nat) (text : Text) : Text :=
  if text.width ≤ limit then text
  else if limit = 0 then []
  else takeWidth (limit - 1) text.clusters ++ [ellipsis]

theorem truncate_of_width_le {limit : Nat} {text : Text} (fits : text.width ≤ limit) :
    text.truncate limit = text := if_pos fits

end Text

end Promptline
