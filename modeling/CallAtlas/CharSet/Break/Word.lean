import CallAtlas.CharSet.Emoji
import CallAtlas.CharSet.Property
import CallAtlas.CharSet.Role
import CallAtlas.CharSet.Script

/-!
# Characters in words

The property `Word_Break` says what part of a word a character can be, or how it parts words.

## Main definitions

* `wordExtend`, `wordFormat`, `wordLetter`, `wordNumeric`, `hebrewLetter`, `katakana`: the parts of
  words
* `ofWordBreak?`: the characters that are a given part of words
-/

namespace CallAtlas.CharSet

/-- The set of the characters that belong to the one before them in a word. -/
def wordExtend : CharSet := ofList [graphemeExtend, emojiModifier, spacingMark]

/-- The set of the controls of layout that words ignore. -/
def wordFormat : CharSet :=
  format.diff (ofList [ofRanges [(0x200B, 0x200B)], joinControl, graphemeExtend, concatenationMark])

/-- The set of the marks that stand before a number and belong to it. -/
def numberSign : CharSet := concatenationMark.diff (ofRanges [(0x70F, 0x70F)])

/-- The set of the characters of numbers. -/
def wordNumeric : CharSet := ofList [decimalNumber, numberSign, ofRanges [(0x66B, 0x66B)]]

/-- The set of the characters of words in Katakana. -/
def katakana : CharSet :=
  ((ofScript? "katakana").getD .empty).union
    (ofRanges [(0x3031, 0x3035), (0x309B, 0x309C), (0x30A0, 0x30A0), (0x30FC, 0x30FC),
      (0xFF70, 0xFF70)])

/-- The set of the letters of Hebrew. -/
def hebrewLetter : CharSet := otherLetter.inter ((ofScript? "hebrew").getD .empty)

/-- The set of the letters of scripts that are written without blanks between words. -/
def unspacedLetter : CharSet :=
  ofRanges
    [(0xE01, 0xE30), (0xE32, 0xE33), (0xE40, 0xE46), (0xE81, 0xE82), (0xE84, 0xE84),
      (0xE86, 0xE8A), (0xE8C, 0xEA3), (0xEA5, 0xEA5), (0xEA7, 0xEB0), (0xEB2, 0xEB3),
      (0xEBD, 0xEBD), (0xEC0, 0xEC4), (0xEC6, 0xEC6), (0xEDC, 0xEDF), (0x1000, 0x102A),
      (0x103F, 0x103F), (0x1050, 0x1055), (0x105A, 0x105D), (0x1061, 0x1061), (0x1065, 0x1066),
      (0x106E, 0x1070), (0x1075, 0x1081), (0x108E, 0x108E), (0x1780, 0x17B3), (0x17D7, 0x17D7),
      (0x17DC, 0x17DC), (0x1950, 0x196D), (0x1970, 0x1974), (0x1980, 0x19AB), (0x19B0, 0x19C9),
      (0x1A20, 0x1A54), (0x1AA7, 0x1AA7), (0xA9E0, 0xA9E4), (0xA9E6, 0xA9EF), (0xA9FA, 0xA9FE),
      (0xAA60, 0xAA76), (0xAA7A, 0xAA7A), (0xAA7E, 0xAAAF), (0xAAB1, 0xAAB1), (0xAAB5, 0xAAB6),
      (0xAAB9, 0xAABD), (0xAAC0, 0xAAC0), (0xAAC2, 0xAAC2), (0xAADB, 0xAADD), (0x11700, 0x1171A),
      (0x11740, 0x11746)]

/-- The set of the characters that words treat as letters though they are not alphabetic. -/
def letterLike : CharSet :=
  ofRanges
    [(0xB8, 0xB8), (0x2C2, 0x2C5), (0x2D2, 0x2D7), (0x2DE, 0x2DF), (0x2E5, 0x2EB), (0x2ED, 0x2ED),
      (0x2EF, 0x2FF), (0x55A, 0x55C), (0x55E, 0x55E), (0x58A, 0x58A), (0x5F3, 0x5F3),
      (0x70F, 0x70F), (0xA708, 0xA716), (0xA720, 0xA721), (0xA789, 0xA78A), (0xAB5B, 0xAB5B)]

/-- The set of the letters of words, those of Hebrew apart. -/
def wordLetter : CharSet :=
  (alphabetic.diff (ofList [ideographic, (ofScript? "hiragana").getD .empty, katakana, wordExtend,
    hebrewLetter, unspacedLetter])).union letterLike

/-- The set of the characters that are a given part of words. -/
def ofWordBreak? : String → Option CharSet
  | "cr" => some (single '\r')
  | "lf" => some (single '\n')
  | "nl" | "newline" => some (ofRanges [(0xB, 0xC), (0x85, 0x85), (0x2028, 0x2029)])
  | "extend" => some wordExtend
  | "zwj" => some (ofRanges [(0x200D, 0x200D)])
  | "fo" | "format" => some wordFormat
  | "ri" | "regionalindicator" => some regionalIndicator
  | "ka" | "katakana" => some katakana
  | "hl" | "hebrewletter" => some hebrewLetter
  | "le" | "aletter" => some wordLetter
  | "sq" | "singlequote" => some (single '\'')
  | "dq" | "doublequote" => some (single '"')
  | "mb" | "midnumlet" =>
    some (ofRanges [(0x2E, 0x2E), (0x2018, 0x2019), (0x2024, 0x2024), (0xFE52, 0xFE52),
      (0xFF07, 0xFF07), (0xFF0E, 0xFF0E)])
  | "ml" | "midletter" =>
    some (ofRanges [(0x3A, 0x3A), (0xB7, 0xB7), (0x387, 0x387), (0x55F, 0x55F), (0x5F4, 0x5F4),
      (0x2027, 0x2027), (0xFE13, 0xFE13), (0xFE55, 0xFE55), (0xFF1A, 0xFF1A)])
  | "mn" | "midnum" =>
    some (ofRanges [(0x2C, 0x2C), (0x3B, 0x3B), (0x37E, 0x37E), (0x589, 0x589), (0x60C, 0x60D),
      (0x66C, 0x66C), (0x7F8, 0x7F8), (0x2044, 0x2044), (0xFE10, 0xFE10), (0xFE14, 0xFE14),
      (0xFE50, 0xFE50), (0xFE54, 0xFE54), (0xFF0C, 0xFF0C), (0xFF1B, 0xFF1B)])
  | "nu" | "numeric" => some wordNumeric
  | "ex" | "extendnumlet" => some (connectorPunctuation.union (ofRanges [(0x202F, 0x202F)]))
  | "wsegspace" =>
    some (spaceSeparator.diff (ofRanges [(0xA0, 0xA0), (0x2007, 0x2007), (0x202F, 0x202F)]))
  | _ => none

end CallAtlas.CharSet
