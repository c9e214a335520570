import CallAtlas.CharSet.Break.Word

/-!
# Characters in sentences

The property `Sentence_Break` says what part of a sentence a character can be, or how it ends one.

## Main definitions

* `sentenceLower`, `sentenceUpper`, `sentenceLetter`, `sentenceExtend`, `sentenceClose`: the parts
  of sentences
* `ofSentenceBreak?`: the characters that are a given part of sentences
-/

namespace CallAtlas.CharSet

/-- The set of the characters that belong to the one before them in a sentence. -/
def sentenceExtend : CharSet := ofList [graphemeExtend, spacingMark, ofRanges [(0x200D, 0x200D)]]

/-- The set of the separators of paragraphs, those of ASCII apart. -/
def sentenceSeparator : CharSet := ofRanges [(0x85, 0x85), (0x2028, 0x2029)]

/-- The set of the characters in lower case; the letters of Georgian have none. -/
def sentenceLower : CharSet :=
  lowercase.diff (graphemeExtend.union (ofRanges [(0x10D0, 0x10FA), (0x10FD, 0x10FF)]))

/-- The set of the characters in upper or title case; the letters of Georgian have none. -/
def sentenceUpper : CharSet :=
  (uppercase.union titlecaseLetter).diff (ofRanges [(0x1C90, 0x1CBF)])

/-- The set of the alphabetic characters without case. -/
def sentenceLetter : CharSet :=
  (alphabetic.diff (ofList [sentenceLower, sentenceUpper, sentenceExtend])).union
    (ofRanges [(0x5F3, 0x5F3)])

/-- The set of the full stops that may end an abbreviation. -/
def fullStop : CharSet :=
  ofRanges [(0x2E, 0x2E), (0x2024, 0x2024), (0xFE52, 0xFE52), (0xFF0E, 0xFF0E)]

/-- The set of the punctuation inside of sentences. -/
def sentenceContinue : CharSet :=
  ofRanges
    [(0x2C, 0x2D), (0x3A, 0x3B), (0x37E, 0x37E), (0x55D, 0x55D), (0x60C, 0x60D), (0x7F8, 0x7F8),
      (0x1802, 0x1802), (0x1808, 0x1808), (0x2013, 0x2014), (0x3001, 0x3001), (0xFE10, 0xFE11),
      (0xFE13, 0xFE14), (0xFE31, 0xFE32), (0xFE50, 0xFE51), (0xFE54, 0xFE55), (0xFE58, 0xFE58),
      (0xFE63, 0xFE63), (0xFF0C, 0xFF0D), (0xFF1A, 0xFF1B), (0xFF64, 0xFF64)]

/-- The set of the brackets and quotation marks. -/
def sentenceClose : CharSet :=
  ofList [openPunctuation, closePunctuation, initialPunctuation, finalPunctuation,
    ofRanges [(0x22, 0x22), (0x27, 0x27), (0x275B, 0x2760), (0x2E00, 0x2E01), (0x2E06, 0x2E08),
      (0x2E0B, 0x2E0B), (0x1F676, 0x1F678)]]

/-- The set of the characters that are a given part of sentences. -/
def ofSentenceBreak? : String → Option CharSet
  | "cr" => some (single '\r')
  | "lf" => some (single '\n')
  | "ex" | "extend" => some sentenceExtend
  | "se" | "sep" => some sentenceSeparator
  | "fo" | "format" => some (format.diff (ofList [joinControl, graphemeExtend, numberSign]))
  | "sp" => some (blank.diff (ofList [sentenceSeparator, single '\r', single '\n']))
  | "lo" | "lower" => some sentenceLower
  | "up" | "upper" => some sentenceUpper
  | "le" | "oletter" => some sentenceLetter
  | "nu" | "numeric" => some (wordNumeric.union (ofRanges [(0x66C, 0x66C)]))
  | "at" | "aterm" => some fullStop
  | "st" | "sterm" => some (sentenceTerminal.diff fullStop)
  | "sc" | "scontinue" => some sentenceContinue
  | "cl" | "close" => some sentenceClose
  | _ => none

end CallAtlas.CharSet
