import CallAtlas.CharSet.Letter
import CallAtlas.CharSet.Mark
import CallAtlas.CharSet.Number
import CallAtlas.CharSet.Punctuation
import CallAtlas.CharSet.Symbol

/-!
# General categories

The general categories that the other tables leave over, and the sets of all categories by their
names. The tables of all properties follow version 16 of the Unicode standard.

## Main definitions

* `spaceSeparator`, `control`, `format`, `privateUse`, `unassigned`: the categories `Zs`, `Cc`,
  `Cf`, `Co` and `Cn`
* `ofCategory?`: the set of a category by its name
-/

namespace CallAtlas.CharSet

/-- The set of the separators of words. -/
def spaceSeparator : CharSet :=
  ofRanges
    [(0x20, 0x20), (0xA0, 0xA0), (0x1680, 0x1680), (0x2000, 0x200A), (0x202F, 0x202F),
      (0x205F, 0x205F), (0x3000, 0x3000)]

/-- The set of the separator of lines. -/
def lineSeparator : CharSet := ofRanges [(0x2028, 0x2028)]

/-- The set of the separator of paragraphs. -/
def paragraphSeparator : CharSet := ofRanges [(0x2029, 0x2029)]

/-- The set of the controls. -/
def control : CharSet := ofRanges [(0x0, 0x1F), (0x7F, 0x9F)]

/-- The set of the controls of layout. -/
def format : CharSet :=
  ofRanges
    [(0xAD, 0xAD), (0x600, 0x605), (0x61C, 0x61C), (0x6DD, 0x6DD), (0x70F, 0x70F), (0x890, 0x891),
      (0x8E2, 0x8E2), (0x180E, 0x180E), (0x200B, 0x200F), (0x202A, 0x202E), (0x2060, 0x2064),
      (0x2066, 0x206F), (0xFEFF, 0xFEFF), (0xFFF9, 0xFFFB), (0x110BD, 0x110BD),
      (0x110CD, 0x110CD), (0x13430, 0x1343F), (0x1BCA0, 0x1BCA3), (0x1D173, 0x1D17A),
      (0xE0001, 0xE0001), (0xE0020, 0xE007F)]

/-- The set of the code points left to private use. -/
def privateUse : CharSet :=
  ofRanges
    [(0xE000, 0xF8FF), (0xF0000, 0xFFFFD), (0x100000, 0x10FFFD)]

/-- The set of the surrogates, which no character has. -/
def surrogate : CharSet := ofRanges [(0xD800, 0xDFFF)]

/-- The set of all separators. -/
def separator : CharSet := ofList [spaceSeparator, lineSeparator, paragraphSeparator]

/-- The set of the code points without a meaning. -/
def unassigned : CharSet :=
  compl (ofList [letter, mark, number, punctuation, symbol, separator, control, format, privateUse,
    surrogate])

/-- The set of the code points that stand for no character of a text. -/
def other : CharSet := ofList [control, format, surrogate, privateUse, unassigned]

/-- The set of a general category by its short or long name, in lower case without separators. -/
def ofCategory? : String → Option CharSet
  | "any" => some all
  | "ascii" => some ascii
  | "assigned" => some (compl unassigned)
  | "l" | "letter" => some letter
  | "lc" | "casedletter" => some casedLetter
  | "lu" | "uppercaseletter" => some uppercaseLetter
  | "ll" | "lowercaseletter" => some lowercaseLetter
  | "lt" | "titlecaseletter" => some titlecaseLetter
  | "lm" | "modifierletter" => some modifierLetter
  | "lo" | "otherletter" => some otherLetter
  | "m" | "mark" | "combiningmark" => some mark
  | "mn" | "nonspacingmark" => some nonspacingMark
  | "mc" | "spacingmark" => some spacingMark
  | "me" | "enclosingmark" => some enclosingMark
  | "n" | "number" => some number
  | "nd" | "decimalnumber" | "digit" => some decimalNumber
  | "nl" | "letternumber" => some letterNumber
  | "no" | "othernumber" => some otherNumber
  | "p" | "punctuation" | "punct" => some punctuation
  | "pc" | "connectorpunctuation" => some connectorPunctuation
  | "pd" | "dashpunctuation" => some dashPunctuation
  | "ps" | "openpunctuation" => some openPunctuation
  | "pe" | "closepunctuation" => some closePunctuation
  | "pi" | "initialpunctuation" => some initialPunctuation
  | "pf" | "finalpunctuation" => some finalPunctuation
  | "po" | "otherpunctuation" => some otherPunctuation
  | "s" | "symbol" => some symbol
  | "sm" | "mathsymbol" => some mathSymbol
  | "sc" | "currencysymbol" => some currencySymbol
  | "sk" | "modifiersymbol" => some modifierSymbol
  | "so" | "othersymbol" => some otherSymbol
  | "z" | "separator" => some separator
  | "zs" | "spaceseparator" => some spaceSeparator
  | "zl" | "lineseparator" => some lineSeparator
  | "zp" | "paragraphseparator" => some paragraphSeparator
  | "c" | "other" => some other
  | "cc" | "control" | "cntrl" => some control
  | "cf" | "format" => some format
  | "co" | "privateuse" => some privateUse
  | "cn" | "unassigned" => some unassigned
  | _ => none

end CallAtlas.CharSet
