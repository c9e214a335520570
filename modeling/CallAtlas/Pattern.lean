import CallAtlas.CharSet.Later
import CallAtlas.Pattern.Marked
import CallAtlas.Pattern.Parser
import CallAtlas.Text

/-!
# Patterns

A pattern selects the names in which a regular expression occurs. Its language has literals, `.`,
`^` and `$`, bracketed sets, the sets `\d`, `\s`, `\w` and their complements, properties of
characters, word boundaries, groups, alternatives, repetitions, and the flags `i`, `m`, `s`, `x`,
`R`, `U` and `u`; it has no back references or look-around.

## Main definitions

* `Pattern`, `Pattern.ofString?`: patterns and their texts
* `Pattern.selects`: whether a pattern selects a name
* `Pattern.quoted`: a text between quotes, as reports show patterns
-/

namespace CallAtlas

/-- A pattern and the text that it was read from. -/
structure Pattern where
  source : String
  regex : Regex
  regex_eq : Pattern.readRegex? source.toList = some regex

namespace Pattern

/-- The pattern of a text; none when the text is no pattern. -/
def ofString? (source : String) : Option Pattern :=
  match h : readRegex? source.toList with
  | some regex => some ⟨source, regex, h⟩
  | none => none

/-- Whether the expression of a pattern occurs in a name. -/
def selects (p : Pattern) (name : String) : Bool := p.regex.occursIn name

/-- A character as it stands between quotes. Quotes and backslashes are preceded by a backslash, and
characters that do not show are written as escapes. -/
def escapeChar (c : Char) : String :=
  match c with
  | '"' => "\\\""
  | '\\' => "\\\\"
  | '\n' => "\\n"
  | '\r' => "\\r"
  | '\t' => "\\t"
  | '\x00' => "\\0"
  | c => if CharSet.isPrintable c then c.toString else "\\u\x7b" ++ Text.hex c.toNat ++ "\x7d"

/-- A text between quotes. -/
def quoted (s : String) : String := "\"" ++ String.join (s.toList.map escapeChar) ++ "\""

/-- The text of a pattern that may be missing, as reports show it. -/
def describe : Option Pattern → String
  | none => "None"
  | some p => "Some(Regex(" ++ quoted p.source ++ "))"

end Pattern

end CallAtlas
