import CallAtlas.CharSet.Age
import CallAtlas.CharSet.Break.Cluster
import CallAtlas.CharSet.Break.Sentence
import CallAtlas.CharSet.Break.Word
import CallAtlas.CharSet.CaseChange

/-!
# Properties by name

A property of characters has a name, such as `Greek` or `Lu`, or a name and a value, such as
`script=Greek`. The characters with other values than one are those of `script!=Greek`. In names and
values, case, blanks, underscores and minus signs do not count, nor does a leading `is`.

## Main definitions

* `looseName`: a name without what does not count
* `ofProperty?`: the set of a property that holds or does not hold
* `ofValue?`: the set of a value of a property
* `named?`: the set of a property by its notation
-/

namespace CallAtlas.CharSet

/-- A name in lower case, without blanks, underscores, minus signs, characters other than ASCII and
a leading `is`. -/
def looseName (name : String) : String :=
  let cs := name.toList
  let isPrefixed := cs.take 2 |>.map Char.toLower |> (· == ['i', 's'])
  let rest := (if isPrefixed then cs.drop 2 else cs).filter fun c =>
    c.toNat < 0x80 && c ≠ ' ' && c ≠ '_' && c ≠ '-'
  let loose := String.ofList (rest.map Char.toLower)
  -- the short name of another property
  if isPrefixed && loose == "c" then "isc" else loose

/-- The set of a property by its loose name. -/
def ofProperty? : String → Option CharSet
  | "alphabetic" | "alpha" => some alphabetic
  | "lowercase" | "lower" => some lowercase
  | "uppercase" | "upper" => some uppercase
  | "cased" => some cased
  | "caseignorable" | "ci" => some caseIgnorable
  | "graphemeextend" | "grext" => some graphemeExtend
  | "graphemebase" | "grbase" => some graphemeBase
  | "defaultignorablecodepoint" | "di" => some defaultIgnorable
  | "otherdefaultignorablecodepoint" | "odi" => some otherDefaultIgnorable
  | "joincontrol" | "joinc" => some joinControl
  | "whitespace" | "wspace" | "space" => some blank
  | "idstart" | "ids" => some identifierStart
  | "idcontinue" | "idc" => some identifierContinue
  | "xidstart" | "xids" => some (identifierStart.diff unstableStart)
  | "xidcontinue" | "xidc" => some (identifierContinue.diff unstableContinue)
  | "otheridstart" | "oids" => some identifierStartExtra
  | "otheridcontinue" | "oidc" => some identifierContinueExtra
  | "idcompatmathstart" => some compatMathStart
  | "idcompatmathcontinue" => some compatMathContinue
  | "hexdigit" | "hex" =>
    some (ofRanges [(0x30, 0x39), (0x41, 0x46), (0x61, 0x66), (0xFF10, 0xFF19), (0xFF21, 0xFF26),
      (0xFF41, 0xFF46)])
  | "asciihexdigit" | "ahex" => some (ofRanges [(0x30, 0x39), (0x41, 0x46), (0x61, 0x66)])
  | "math" => some math
  | "othermath" | "omath" => some otherMath
  | "otheralphabetic" | "oalpha" => some otherAlphabetic
  | "otherlowercase" | "olower" => some otherLowercase
  | "otheruppercase" | "oupper" => some otherUppercase
  | "othergraphemeextend" | "ogrext" => some otherGraphemeExtend
  | "dash" => some dash
  | "hyphen" => some hyphen
  | "diacritic" | "dia" => some diacritic
  | "extender" | "ext" => some extender
  | "graphemelink" | "grlink" => some conjoining
  | "modifiercombiningmark" | "mcm" => some modifierCombining
  | "ideographic" | "ideo" => some ideographic
  | "unifiedideograph" | "uideo" => some unifiedIdeograph
  | "radical" => some radical
  | "idsbinaryoperator" | "idsb" => some binaryOperator
  | "idstrinaryoperator" | "idst" => some trinaryOperator
  | "idsunaryoperator" | "idsu" => some unaryOperator
  | "quotationmark" | "qmark" => some quotationMark
  | "terminalpunctuation" | "term" => some terminalPunctuation
  | "sentenceterminal" | "sterm" => some sentenceTerminal
  | "softdotted" | "sd" => some softDotted
  | "deprecated" | "dep" => some deprecated
  | "variationselector" | "vs" => some variationSelector
  | "logicalorderexception" | "loe" => some logicalOrderException
  | "prependedconcatenationmark" | "pcm" => some concatenationMark
  | "noncharactercodepoint" | "nchar" => some noncharacter
  | "patternsyntax" | "patsyn" => some patternSyntax
  | "patternwhitespace" | "patws" => some patternBlank
  | "bidicontrol" | "bidic" => some bidiControl
  | "bidimirrored" | "bidim" => some turning
  | "emoji" => some emoji
  | "emojipresentation" | "epres" => some emojiPresentation
  | "emojimodifier" | "emod" => some emojiModifier
  | "emojimodifierbase" | "ebase" => some emojiModifierBase
  | "emojicomponent" | "ecomp" => some emojiComponent
  | "extendedpictographic" | "extpict" => some extendedPictographic
  | "regionalindicator" | "ri" => some regionalIndicator
  | "changeswhencasefolded" | "cwcf" => some changesWhenFolded
  | "changeswhenlowercased" | "cwl" => some changesWhenLowered
  | "changeswhenuppercased" | "cwu" => some changesWhenRaised
  | "changeswhentitlecased" | "cwt" => some changesWhenTitled
  | "changeswhencasemapped" | "cwcm" => some changesWhenMapped
  | _ => none

/-- The set of a property that is named alone. -/
def ofLooseName? (name : String) : Option CharSet :=
  (ofProperty? name).or ((ofCategory? name).or (ofScript? name))

/-- The set of the characters that have a value of a property. -/
def ofValue? (name value : String) : Option CharSet :=
  match name with
  | "gc" | "generalcategory" => ofCategory? value
  | "sc" | "script" => ofScript? value
  | "scx" | "scriptextensions" => ofScriptExtension? value
  | "age" => ofAge? value
  | "gcb" | "graphemeclusterbreak" => ofClusterBreak? value
  | "wb" | "wordbreak" => ofWordBreak? value
  | "sb" | "sentencebreak" => ofSentenceBreak? value
  | _ => none

/-- The set of a property by its notation, and whether the characters that are not in the set are
meant. The notation is a name, or a name and a value with `!=`, `:` or `=` between them. -/
def named? (text : String) : Option (CharSet × Bool) :=
  match text.splitOn "!=", text.splitOn ":", text.splitOn "=" with
  | name :: value :: values, _, _ => (byValue name (value :: values) "!=").map (·, true)
  | _, name :: value :: values, _ => (byValue name (value :: values) ":").map (·, false)
  | _, _, name :: value :: values => (byValue name (value :: values) "=").map (·, false)
  | _, _, _ => (ofLooseName? (looseName text)).map (·, false)
where
  /-- The set of a property with a value that was cut at a separator. -/
  byValue (name : String) (values : List String) (separator : String) : Option CharSet :=
    ofValue? (looseName name) (looseName (separator.intercalate values))

end CallAtlas.CharSet
