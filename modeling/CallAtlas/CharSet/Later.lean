import CallAtlas.CharSet.Property

/-!
# Characters of the next version

The names of groups and quoted texts follow version 17 of the Unicode standard, and so know more
characters than the sets of patterns.

## Main definitions

* `laterAlphabetic`, `laterNumber`, `laterMark`, `laterSymbol`: the characters that version 17 added
* `printable`: the characters that show in a text
* `isAlphabetic`, `isNumeric`, `isPrintable`: the properties of a character
-/

namespace CallAtlas.CharSet

/-- The set of the alphabetic characters that version 17 added. -/
def laterAlphabetic : CharSet :=
  ofRanges
    [(0x88F, 0x88F), (0xC5C, 0xC5C), (0xCDC, 0xCDC), (0xA7CE, 0xA7CF), (0xA7D2, 0xA7D2),
      (0xA7D4, 0xA7D4), (0xA7F1, 0xA7F1), (0x10940, 0x10959), (0x10EC5, 0x10EC7),
      (0x10EFA, 0x10EFB), (0x11B60, 0x11B67), (0x11DB0, 0x11DDB), (0x16EA0, 0x16EB8),
      (0x16EBB, 0x16ED3), (0x16FF2, 0x16FF6), (0x187F8, 0x187FF), (0x18D09, 0x18D1E),
      (0x18D80, 0x18DF2), (0x1E6C0, 0x1E6DE), (0x1E6E0, 0x1E6F5), (0x1E6FE, 0x1E6FF),
      (0x2B73A, 0x2B73F), (0x2CEA2, 0x2CEAD), (0x323B0, 0x33479)]

/-- The set of the characters that version 17 added and that stand for numbers. -/
def laterNumber : CharSet := ofRanges [(0x11DE0, 0x11DE9), (0x16FF4, 0x16FF6)]

/-- The set of the marks that version 17 added and that extend the character before them. -/
def laterMark : CharSet :=
  ofRanges
    [(0x1ACF, 0x1ADD), (0x1AE0, 0x1AEB), (0x10EFA, 0x10EFB), (0x11B60, 0x11B60),
      (0x11B62, 0x11B64), (0x11B66, 0x11B66), (0x1E6E3, 0x1E6E3), (0x1E6E6, 0x1E6E6),
      (0x1E6EE, 0x1E6EF), (0x1E6F5, 0x1E6F5)]

/-- The set of the other characters that version 17 added. -/
def laterSymbol : CharSet :=
  ofRanges
    [(0x20C1, 0x20C1), (0x2B96, 0x2B96), (0xFBC3, 0xFBD2), (0xFD90, 0xFD91), (0xFDC8, 0xFDCE),
      (0x10ED0, 0x10ED8), (0x1CCFA, 0x1CCFC), (0x1CEBA, 0x1CED0), (0x1CEE0, 0x1CEF0),
      (0x1F6D8, 0x1F6D8), (0x1F777, 0x1F77A), (0x1F8D0, 0x1F8D8), (0x1FA54, 0x1FA57),
      (0x1FA8A, 0x1FA8A), (0x1FA8E, 0x1FA8E), (0x1FAC8, 0x1FAC8), (0x1FACD, 0x1FACD),
      (0x1FAEA, 0x1FAEA), (0x1FAEF, 0x1FAEF), (0x1FBFA, 0x1FBFA)]

/-- The set of the characters that show in a text: neither controls nor unassigned, not for private
use, no separators other than the space, and neither marks that extend the character before them
nor characters that are not shown where they are unknown. -/
def printable : CharSet :=
  ofList [laterAlphabetic.diff laterMark, laterNumber, laterSymbol,
    compl (ofList [control, format, surrogate, privateUse, unassigned,
      separator.diff (single ' '), graphemeExtend.diff letter, defaultIgnorable])]

/-- Whether a character is alphabetic. -/
def isAlphabetic (c : Char) : Bool := alphabetic.contains c || laterAlphabetic.contains c

/-- Whether a character stands for a number. -/
def isNumeric (c : Char) : Bool := number.contains c || laterNumber.contains c

/-- Whether a character shows in a text. -/
def isPrintable (c : Char) : Bool := printable.contains c

end CallAtlas.CharSet
