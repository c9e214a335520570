import CallAtlas.CharSet.Emoji
import CallAtlas.CharSet.Property
import CallAtlas.CharSet.Role

/-!
# Characters in clusters

A cluster is what a reader takes for one character: a letter with its marks, or a syllable of
Hangul. The property `Grapheme_Cluster_Break` says what part of a cluster a character can be.

## Main definitions

* `clusterControl`, `clusterExtend`, `clusterPrepend`, `clusterSpacing`: the parts of clusters
* `ofClusterBreak?`: the characters that are a given part of clusters
-/

namespace CallAtlas.CharSet

/-- The set of the characters that are no part of a cluster: controls, and the unassigned code
points that are not shown. -/
def clusterControl : CharSet :=
  (ofList [control, format, lineSeparator, paragraphSeparator,
    unassigned.inter defaultIgnorable]).diff
    (ofList [single '\r', single '\n', joinControl, graphemeExtend, concatenationMark])

/-- The set of the characters that belong to the one before them. -/
def clusterExtend : CharSet := graphemeExtend.union emojiModifier

/-- The set of the characters that belong to the one after them. -/
def clusterPrepend : CharSet :=
  concatenationMark.union (ofRanges
    [(0xD4E, 0xD4E), (0x111C2, 0x111C3), (0x113D1, 0x113D1), (0x1193F, 0x1193F),
      (0x11941, 0x11941), (0x11A3A, 0x11A3A), (0x11A84, 0x11A89), (0x11D46, 0x11D46),
      (0x11F02, 0x11F02)])

/-- The set of the marks that take space and do not belong to the character before them. -/
def looseSpacing : CharSet :=
  ofRanges
    [(0x102B, 0x102C), (0x1038, 0x1038), (0x1062, 0x1064), (0x1067, 0x106D), (0x1083, 0x1083),
      (0x1087, 0x108C), (0x108F, 0x108F), (0x109A, 0x109C), (0x1A61, 0x1A61), (0x1A63, 0x1A64),
      (0xAA7B, 0xAA7B), (0xAA7D, 0xAA7D), (0x11720, 0x11721)]

/-- The set of the characters that take space and belong to the one before them. -/
def clusterSpacing : CharSet :=
  (spacingMark.diff (graphemeExtend.union looseSpacing)).union
    (ofRanges [(0xE33, 0xE33), (0xEB3, 0xEB3)])

/-- The set of the syllables of Hangul that have no final consonant: every twenty-eighth. -/
def openSyllable : CharSet :=
  ofRanges ((List.range 399).map fun i => (0xAC00 + 28 * i, 0xAC00 + 28 * i))

/-- The set of the syllables of Hangul that have a final consonant. -/
def closedSyllable : CharSet := (ofRanges [(0xAC00, 0xD7A3)]).diff openSyllable

/-- The set of the characters that are a given part of clusters. -/
def ofClusterBreak? : String → Option CharSet
  | "cr" => some (single '\r')
  | "lf" => some (single '\n')
  | "cn" | "control" => some clusterControl
  | "ex" | "extend" => some clusterExtend
  | "zwj" => some (ofRanges [(0x200D, 0x200D)])
  | "ri" | "regionalindicator" => some regionalIndicator
  | "pp" | "prepend" => some clusterPrepend
  | "sm" | "spacingmark" => some clusterSpacing
  | "l" => some (ofRanges [(0x1100, 0x115F), (0xA960, 0xA97C)])
  | "v" =>
    some (ofRanges [(0x1160, 0x11A7), (0xD7B0, 0xD7C6), (0x16D63, 0x16D63), (0x16D67, 0x16D6A)])
  | "t" => some (ofRanges [(0x11A8, 0x11FF), (0xD7CB, 0xD7FB)])
  | "lv" => some openSyllable
  | "lvt" => some closedSyllable
  | _ => none

end CallAtlas.CharSet
