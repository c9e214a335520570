import CallAtlas.CharSet.Later
import CallAtlas.Pattern.Bracket
import CallAtlas.Pattern.Size

/-!
# Reading patterns

A pattern is read from left to right. The groups that are open form a stack, each with what came
before it and the flags that were in force; every step of the reader takes at least one character.
The notation may be nested only so deep, and the expression may be only so large.

## Main definitions

* `Pattern.Element`: a part of a pattern and how deep it is nested
* `Pattern.Reader`: what has been read so far
* `Pattern.Reader.step?`: reading one element of a pattern
* `Pattern.readRegex?`: the expression that a pattern stands for
-/

namespace CallAtlas.Pattern

/-- A part of a pattern, and how deep its notation is nested. -/
structure Element where
  /-- The expression of the part; none for a change of flags. -/
  regex : Option Regex
  depth : Nat := 0
deriving Inhabited

/-- What came before an open group. -/
structure Frame where
  /-- The flags that were in force. -/
  flags : Flags
  /-- The number of the group, if it has one. -/
  index : Option Nat
  /-- The complete alternatives, latest first. -/
  alternatives : List Element
  /-- The elements of the last alternative, latest first. -/
  elements : List Element
deriving Inhabited

/-- What has been read of a pattern. -/
structure Reader where
  /-- The flags in force. -/
  flags : Flags := {}
  /-- The complete alternatives of the innermost group, latest first. -/
  alternatives : List Element := []
  /-- The elements of its last alternative, latest first. -/
  elements : List Element := []
  /-- What came before each open group, innermost first. -/
  groups : List Frame := []
  /-- The number of groups with a number. -/
  groupCount : Nat := 0
  /-- The names of groups. -/
  names : List String := []
deriving Inhabited

namespace Reader

/-- The reader after one more element. -/
def push (r : Reader) (regex : Regex) (depth : Nat) : Reader :=
  { r with elements := ⟨regex, depth⟩ :: r.elements }

/-- The last alternative. -/
def lastAlternative (r : Reader) : Element :=
  let elements := r.elements.reverse
  ⟨Regex.concat (elements.filterMap (·.regex)), nesting (elements.map (·.depth))⟩

/-- The alternatives of the innermost group. -/
def content (r : Reader) : Element :=
  let alternatives := (r.lastAlternative :: r.alternatives).reverse
  ⟨Regex.choice (alternatives.filterMap (·.regex)), nesting (alternatives.map (·.depth))⟩

/-- The reader inside a new group with the given flags. -/
def openGroup (r : Reader) (flags : Flags) (index : Option Nat) : Reader :=
  { r with
    flags
    alternatives := []
    elements := []
    groups := ⟨r.flags, index, r.alternatives, r.elements⟩ :: r.groups }

/-- The reader inside a new group with a number. -/
def openNumbered (r : Reader) : Reader :=
  { r.openGroup r.flags (some (r.groupCount + 1)) with groupCount := r.groupCount + 1 }

/-- The reader after the innermost group; none when no group is open. -/
def closeGroup? (r : Reader) : Option Reader :=
  match r.groups with
  | [] => none
  | frame :: groups =>
    let content := r.content
    let regex := match frame.index with
      | some index => content.regex.map (.group index)
      | none => content.regex
    some { r with
      flags := frame.flags
      alternatives := frame.alternatives
      elements := ⟨regex, content.depth + 1⟩ :: frame.elements
      groups }

/-- The reader after the last element is repeated; none when there is no element to repeat. -/
def repeat? (r : Reader) (min : Nat) (max : Option Nat) (isLazy : Bool) : Option Reader :=
  match r.elements with
  | ⟨some regex, depth⟩ :: elements =>
    let regex := regex.repeated min max (isLazy != r.flags.swapLazy)
    some { r with elements := ⟨regex, depth + 1⟩ :: elements }
  | _ => none

/-- The expression of an atom under the flags in force. -/
def atomRegex (flags : Flags) : Atom → Regex
  | .literal c => .ofSet (foldSet flags (.single c)) flags.ascii
  | .set chars => .ofSet chars flags.ascii
  | .anchor condition => .anchor condition

/-- The set that a dot stands for; there is none among ASCII characters. -/
def dotSet? (flags : Flags) : Option CharSet :=
  if flags.ascii then none
  else if flags.dotAll then some .all
  else if flags.anyLineEnd then some (.compl (.union (.single '\n') (.single '\r')))
  else some (.compl (.single '\n'))

/-- The condition that a circumflex stands for. -/
def startAnchor (flags : Flags) : Anchor :=
  if !flags.multiLine then .textStart else if flags.anyLineEnd then .anyLineStart else .lineStart

/-- The condition that a dollar sign stands for. -/
def endAnchor (flags : Flags) : Anchor :=
  if !flags.multiLine then .textEnd else if flags.anyLineEnd then .anyLineEnd else .lineEnd

end Reader

/-- Whether a character can be part of the name of a group. -/
def isNameChar (c : Char) : Bool :=
  c = '_' || c = '.' || c = '[' || c = ']' || CharSet.isAlphabetic c || CharSet.isNumeric c

/-- Whether a character can begin the name of a group. -/
def isNameStart (c : Char) : Bool := c = '_' || CharSet.isAlphabetic c

/-- The name of a group up to a closing angle bracket, and what follows it. -/
def groupName? (cs : List Char) : Option (String × List Char) :=
  match cs.takeWhile (· ≠ '>'), cs.dropWhile (· ≠ '>') with
  | c :: name, _ :: rest =>
    if isNameStart c && name.all isNameChar then some (String.ofList (c :: name), rest) else none
  | _, _ => none

/-- Reads what follows an opening parenthesis: a named group, a group or a change of flags, or a
plain group. Look-around is refused. -/
def Reader.group? (r : Reader) (cs : List Char) : Option (Reader × List Char) :=
  match skip r.flags cs with
  | '?' :: '=' :: _ => none
  | '?' :: '!' :: _ => none
  | '?' :: '<' :: '=' :: _ => none
  | '?' :: '<' :: '!' :: _ => none
  | '?' :: 'P' :: '<' :: cs => named cs
  | '?' :: '<' :: cs => named cs
  | '?' :: cs => do
    let (flags, used, delimiter, rest) ← readFlags? r.flags [] true false cs
    if delimiter = ':' then some (r.openGroup flags none, rest)
    else if used = [] then none
    else some ({ r with flags, elements := ⟨none, 0⟩ :: r.elements }, rest)
  | cs => some (r.openNumbered, cs)
where
  /-- Opens the group whose name comes next, unless there is one of that name. -/
  named (cs : List Char) : Option (Reader × List Char) := do
    let (name, rest) ← groupName? cs
    if r.names.contains name then none
    else some ({ r.openNumbered with names := name :: r.names }, rest)

/-- Whether a question mark, which makes a repetition lazy, stands in front of a text, and the text
without it. -/
def takeLazy : List Char → Bool × List Char
  | '?' :: cs => (true, cs)
  | cs => (false, cs)

/-- A 32-bit number between blanks, and what follows. -/
def bound? (flags : Flags) (cs : List Char) : Option (Nat × List Char) :=
  match takeRun flags Char.isDigit cs.length (cs.dropWhile Text.isBlank) with
  | ([], _) => none
  | (digits, rest) =>
    (Text.readWord? (String.ofList digits)).map fun n => (n.toNat, rest.dropWhile Text.isBlank)

/-- The reader after the last element is repeated, and the rest of a text without the question mark
that makes the repetition lazy. -/
def Reader.repeatLazy? (r : Reader) (min : Nat) (max : Option Nat) (cs : List Char) :
    Option (Reader × List Char) :=
  let (isLazy, rest) := takeLazy cs
  (r.repeat? min max isLazy).map (·, rest)

/-- Reads a counted repetition after its opening brace: one number, a number and a comma, or two
numbers in order. -/
def Reader.counted? (r : Reader) (cs : List Char) : Option (Reader × List Char) := do
  let (min, rest) ← bound? r.flags (skip r.flags cs)
  match rest with
  | '\x7d' :: rest => r.repeatLazy? min (some min) (skip r.flags rest)
  | ',' :: rest =>
    match skip r.flags rest with
    | '\x7d' :: rest => r.repeatLazy? min none (skip r.flags rest)
    | rest =>
      match ← bound? r.flags rest with
      | (max, '\x7d' :: rest) =>
        if min ≤ max then r.repeatLazy? min (some max) (skip r.flags rest) else none
      | _ => none
  | _ => none

/-- Reads the element of a pattern that begins with the character `c`. -/
def Reader.step? (r : Reader) (c : Char) (cs : List Char) : Option (Reader × List Char) :=
  match c with
  | '(' => r.group? cs
  | ')' => r.closeGroup?.map (·, cs)
  | '|' =>
    some ({ r with alternatives := r.lastAlternative :: r.alternatives, elements := [] }, cs)
  | '[' =>
    (bracket? r.flags cs).map fun (s, rest) => (r.push (.ofSet s.set r.flags.ascii) s.depth, rest)
  | '?' => r.repeatLazy? 0 (some 1) cs
  | '*' => r.repeatLazy? 0 none cs
  | '+' => r.repeatLazy? 1 none cs
  | '\x7b' => r.counted? cs
  | '\\' => (escape? r.flags cs).map fun (atom, rest) => (r.push (atomRegex r.flags atom) 0, rest)
  | '.' => (dotSet? r.flags).map fun set => (r.push (.ofSet set false) 0, cs)
  | '^' => some (r.push (.anchor (startAnchor r.flags)) 0, cs)
  | '$' => some (r.push (.anchor (endAnchor r.flags)) 0, cs)
  | c => some (r.push (atomRegex r.flags (.literal c)) 0, cs)

/-- Reads a pattern to its end, in at most `fuel` steps. -/
def Reader.run? : Nat → Reader → List Char → Option Reader
  | 0, _, _ => none
  | fuel + 1, r, cs =>
    match skip r.flags cs with
    | [] => some r
    | c :: cs =>
      match r.step? c cs with
      | none => none
      | some (r, cs) => run? fuel r cs

/-- The deepest nesting allowed. -/
def nestingLimit : Nat := 250

/-- The expression that a pattern stands for. -/
def readRegex? (cs : List Char) : Option Regex := do
  let r ← Reader.run? (cs.length + 1) {} cs
  let content := r.content
  let regex ← content.regex
  if r.groups.isEmpty && content.depth ≤ nestingLimit && regex.isSmall then some regex else none

end CallAtlas.Pattern
