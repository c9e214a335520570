import CallAtlas.CharSet.Named
import CallAtlas.Pattern.Regex
import CallAtlas.Text

/-!
# Escapes and flags of patterns

The parts of the pattern language that take no expression as an operand: flags, blanks that the
flag `x` makes insignificant, and what may follow a backslash.

## Main definitions

* `Pattern.Flags`, `Pattern.readFlags?`: flags and their notation
* `Pattern.skip`, `Pattern.takeRun`: reading over insignificant blanks and comments
* `Pattern.Atom`, `Pattern.escape?`: what an escape stands for
-/

namespace CallAtlas.Pattern

/-- The flags in force at a place of a pattern. -/
structure Flags where
  /-- Case is ignored. -/
  ignoreCase : Bool := false
  /-- Line ends count as text ends for `^` and `$`. -/
  multiLine : Bool := false
  /-- The dot stands for line ends too. -/
  dotAll : Bool := false
  /-- Blanks and comments are insignificant. -/
  extended : Bool := false
  /-- A carriage return ends a line too. -/
  anyLineEnd : Bool := false
  /-- Repetitions prefer few occurrences, and lazy ones many. -/
  swapLazy : Bool := false
  /-- Sets, words and case are those of ASCII characters. -/
  ascii : Bool := false
deriving DecidableEq, Inhabited

/-- Sets or clears the flag of a letter. -/
def Flags.set? (flags : Flags) (letter : Char) (value : Bool) : Option Flags :=
  match letter with
  | 'i' => some { flags with ignoreCase := value }
  | 'm' => some { flags with multiLine := value }
  | 's' => some { flags with dotAll := value }
  | 'x' => some { flags with extended := value }
  | 'R' => some { flags with anyLineEnd := value }
  | 'U' => some { flags with swapLazy := value }
  | 'u' => some { flags with ascii := !value }
  | _ => none

/-- Reads flags up to a colon or a closing parenthesis, and gives that character and what follows
it. The letters in `used` have occurred; a minus sign, which occurs at most once and not last,
starts the flags to clear. -/
def readFlags? (flags : Flags) (used : List Char) (value : Bool) (dangling : Bool) :
    List Char → Option (Flags × List Char × Char × List Char)
  | [] => none
  | c :: cs =>
    if c = ':' ∨ c = ')' then if dangling then none else some (flags, used, c, cs)
    else if c = '-' then
      if value then readFlags? flags used false true cs else none
    else if used.contains c then none
    else do readFlags? (← flags.set? c value) (c :: used) value false cs

/-- A text without its leading blanks and comments; `comment` says whether it begins in one. -/
def skipBlanks (comment : Bool) : List Char → List Char
  | [] => []
  | c :: cs =>
    if comment then skipBlanks (c ≠ '\n') cs
    else if Text.isBlank c then skipBlanks false cs
    else if c = '#' then skipBlanks true cs
    else c :: cs

/-- A text without leading blanks and comments, when these are insignificant. -/
def skip (flags : Flags) (cs : List Char) : List Char :=
  if flags.extended then skipBlanks false cs else cs

/-- The longest run of characters with a property that a text begins with, at most `fuel` of them,
and what follows; insignificant blanks and comments after each are skipped. -/
def takeRun (flags : Flags) (p : Char → Bool) : Nat → List Char → List Char × List Char
  | fuel + 1, c :: cs =>
    if p c then
      let (run, rest) := takeRun flags p fuel (skip flags cs)
      (c :: run, rest)
    else ([], c :: cs)
  | _, cs => ([], cs)

/-- What a single character or an escape stands for. -/
inductive Atom where
  | literal (c : Char)
  | set (chars : CharSet)
  | anchor (condition : Anchor)
deriving DecidableEq, Inhabited

/-- The value of a hexadecimal digit. -/
def hexValue? (c : Char) : Option Nat :=
  if '0' ≤ c ∧ c ≤ '9' then some (c.toNat - '0'.toNat)
  else if 'a' ≤ c ∧ c ≤ 'f' then some (c.toNat - 'a'.toNat + 10)
  else if 'A' ≤ c ∧ c ≤ 'F' then some (c.toNat - 'A'.toNat + 10)
  else none

/-- The character of a code point, none for surrogates and beyond the last one. -/
def charOfCode? (n : Nat) : Option Char :=
  if n.isValidChar then some (Char.ofNat n) else none

/-- The value of hexadecimal digits that continue a number of value `acc`. -/
def hexNumber? (acc : Nat) : List Char → Option Nat
  | [] => some acc
  | c :: cs => do hexNumber? (acc * 16 + (← hexValue? c)) cs

/-- The character named by its code point: after `x`, `u` or `U` two, four or eight digits, or any
number of them in braces. -/
def hexEscape? (flags : Flags) (count : Nat) (cs : List Char) : Option (Char × List Char) :=
  match skip flags cs with
  | '\x7b' :: cs =>
    match takeRun flags (hexValue? · |>.isSome) cs.length (skip flags cs) with
    | (c :: digits, '\x7d' :: rest) => do
      return (← charOfCode? (← hexNumber? 0 (c :: digits)), rest)
    | _ => none
  | cs => do
    let (digits, rest) := takeRun flags (hexValue? · |>.isSome) count cs
    if digits.length < count then none
    else
      let c ← charOfCode? (← hexNumber? 0 digits)
      -- two digits name a byte where only ASCII characters are bytes
      if flags.ascii && count = 2 && 0x80 ≤ c.toNat then none else some (c, rest)

/-- The characters that have a meaning of their own in patterns. -/
def isMeta (c : Char) : Bool :=
  ['\\', '.', '+', '*', '?', '(', ')', '|', '[', ']', '\x7b', '\x7d', '^', '$', '#', '&', '-',
    '~'].contains c

/-- The characters that a backslash makes stand for themselves: those with a meaning of their own
and the other ASCII characters, except letters, digits and angle brackets. -/
def isEscapable (c : Char) : Bool :=
  isMeta c || (c.toNat < 128 && !c.isAlphanum && c ≠ '<' && c ≠ '>')

/-- The condition named in braces after a word boundary. -/
def namedBoundary? : String → Option WordCondition
  | "start" => some .start
  | "end" => some .stop
  | "start-half" => some .startHalf
  | "end-half" => some .stopHalf
  | _ => none

/-- The condition of a word boundary, which a name in braces may specify. Braces that do not begin
with a letter or a minus sign are left to be read as a repetition. -/
def boundary? (flags : Flags) (cs : List Char) : Option (WordCondition × List Char) :=
  let isNameChar (c : Char) : Bool := c.isAlpha || c = '-'
  match cs with
  | '\x7b' :: inner =>
    match skip flags inner with
    | [] => none
    | c :: rest =>
      if !isNameChar c then some (.boundary, cs)
      else
        match takeRun flags isNameChar cs.length (c :: rest) with
        | (name, '\x7d' :: after) => (namedBoundary? (String.ofList name)).map (·, after)
        | _ => none
  | _ => some (.boundary, cs)

/-- A set, or the same set regardless of case. -/
def foldSet (flags : Flags) (set : CharSet) : CharSet :=
  if !flags.ignoreCase then set else if flags.ascii then set.anyAsciiCase else set.anyCase

/-- A set or its complement; case is taken into account before the complement. Among ASCII
characters there are no complements, since these have other characters too. -/
def closeSet? (flags : Flags) (negated : Bool) (set : CharSet) : Option CharSet :=
  let set := foldSet flags set
  if !negated then some set else if flags.ascii then none else some set.negation

/-- The set of a class of characters, or of its ASCII characters, or the complement. -/
def classSet? (flags : Flags) (negated : Bool) (set : CharSet) : Option CharSet :=
  if !flags.ascii then some (if negated then set.negation else set)
  else if negated then none else some (set.inter .ascii)

/-- The set of the characters with a property, which is a letter or a text in braces. -/
def property? (flags : Flags) (negated : Bool) (cs : List Char) : Option (CharSet × List Char) :=
  match skip flags cs with
  | [] => none
  | '\x7b' :: cs =>
    match takeRun flags (· ≠ '\x7d') cs.length (skip flags cs) with
    | (name, '\x7d' :: rest) => read (String.ofList name) rest
    | _ => none
  | c :: cs => if c = '\\' then none else read c.toString cs
where
  /-- The set of a property by its name; there are no properties among ASCII characters. -/
  read (name : String) (rest : List Char) : Option (CharSet × List Char) :=
    if flags.ascii then none
    else do
      let (set, excluded) ← CharSet.named? name
      return (← closeSet? flags (negated != excluded) set, rest)

/-- What the characters after a backslash stand for. -/
def escape? (flags : Flags) : List Char → Option (Atom × List Char)
  | [] => none
  | c :: cs =>
    let literal (c : Char) : Option (Atom × List Char) := some (.literal c, cs)
    let set (negated : Bool) (set : CharSet) : Option (Atom × List Char) :=
      (classSet? flags negated set).map fun set => (.set set, cs)
    let word (condition : WordCondition) (rest : List Char) : Option (Atom × List Char) :=
      some (.anchor (.word condition flags.ascii), rest)
    match c with
    | 'x' => (hexEscape? flags 2 cs).map fun (c, rest) => (.literal c, rest)
    | 'u' => (hexEscape? flags 4 cs).map fun (c, rest) => (.literal c, rest)
    | 'U' => (hexEscape? flags 8 cs).map fun (c, rest) => (.literal c, rest)
    | 'p' => (property? flags false cs).map fun (set, rest) => (.set set, rest)
    | 'P' => (property? flags true cs).map fun (set, rest) => (.set set, rest)
    | 'd' => set false .decimalNumber
    | 'D' => set true .decimalNumber
    | 's' => set false .blank
    | 'S' => set true .blank
    | 'w' => set false .word
    | 'W' => set true .word
    | 'a' => literal '\x07'
    | 'f' => literal '\x0C'
    | 't' => literal '\t'
    | 'n' => literal '\n'
    | 'r' => literal '\r'
    | 'v' => literal '\x0B'
    | 'A' => some (.anchor .textStart, cs)
    | 'z' => some (.anchor .textEnd, cs)
    | 'b' => do
      let (condition, rest) ← boundary? flags cs
      word condition rest
    | 'B' => word .notBoundary cs
    | '<' => word .start cs
    | '>' => word .stop cs
    | _ => if isEscapable c then literal c else none

end CallAtlas.Pattern
