import CallAtlas.Pattern.Escape

/-!
# Bracketed character sets

A bracketed set lists characters, ranges, escapes, named classes and further bracketed sets; the
operators `&&`, `--` and `~~` combine lists from left to right.

## Main definitions

* `Pattern.nesting`: how deep a list of parts is nested
* `Pattern.NestedSet`: a set and how deep its notation is nested
* `Pattern.bracket?`: the set that a bracketed text stands for
-/

namespace CallAtlas.Pattern

/-- How deep a list of parts is nested that are nested as deep as given: two parts or more make one
level. -/
def nesting : List Nat → Nat
  | [] => 0
  | [depth] => depth
  | depths => depths.foldl max 0 + 1

/-- A set of characters, and how deep its notation is nested. -/
structure NestedSet where
  set : CharSet
  depth : Nat := 0
deriving Inhabited

/-- How a list of items combines with the ones before it. -/
inductive SetOperator where
  | inter
  | diff
  | symmDiff
deriving DecidableEq, Inhabited

/-- The result of an operator on two sets. -/
def SetOperator.apply : SetOperator → CharSet → CharSet → CharSet
  | inter => CharSet.inter
  | diff => CharSet.diff
  | symmDiff => CharSet.symmDiff

/-- The result of an operator on the set before it and the items after it. -/
def combine (flags : Flags) (left : Option (NestedSet × SetOperator)) (items : List NestedSet) :
    NestedSet :=
  let right : NestedSet := ⟨.ofList (items.map (·.set)), nesting (items.map (·.depth))⟩
  match left with
  | none => right
  | some (left, operator) =>
    ⟨operator.apply (foldSet flags left.set) (foldSet flags right.set),
      max left.depth right.depth + 1⟩

/-- The set of a bracketed text, which is nested one level deeper than what it contains. -/
def closeBracket? (flags : Flags) (negated : Bool) (content : NestedSet) : Option NestedSet :=
  (closeSet? flags negated content.set).map (⟨·, content.depth + 1⟩)

/-- The named class that follows an opening bracket, if there is one: a colon, an optional
circumflex, the name, a colon and a closing bracket. -/
def namedClass? : List Char → Option (Bool × CharSet × List Char)
  | ':' :: cs =>
    let negated := cs.head? = some '^'
    let cs := if negated then cs.drop 1 else cs
    match cs.dropWhile (· ≠ ':') with
    | ':' :: ']' :: rest =>
      (CharSet.ofName? (String.ofList (cs.takeWhile (· ≠ ':')))).map (negated, ·, rest)
    | _ => none
  | _ => none

/-- An item that begins here: a character or an escape. -/
def item? (flags : Flags) : List Char → Option (Atom × List Char)
  | [] => none
  | '\\' :: cs => escape? flags cs
  | c :: cs => some (.literal c, cs)

/-- The set of the characters from `first` to `last`, which must be in order, and ASCII characters
where only these count. -/
def rangeSet? (flags : Flags) (first last : Char) : Option CharSet :=
  if last < first ∨ (flags.ascii ∧ 0x80 ≤ last.toNat) then none else some (.range first last)

/-- The set of an item that is no range. -/
def itemSet? (flags : Flags) : Atom → Option CharSet
  | .literal c => rangeSet? flags c c
  | .set chars => some chars
  | .anchor _ => none

/-- The next character that is neither blank nor the number sign that begins a comment; `comment`
says whether there has been one. -/
def peekPast (comment : Bool) : List Char → Option Char
  | [] => none
  | c :: cs =>
    if Text.isBlank c then peekPast comment cs
    else if c = '#' ∧ !comment then peekPast true cs
    else some c

/-- The next character, past insignificant blanks. -/
def peek (flags : Flags) (cs : List Char) : Option Char :=
  if flags.extended then peekPast false cs else cs.head?

/-- An item or a range of items. A minus sign before a closing bracket or another minus sign makes
no range. -/
def rangeItem? (flags : Flags) (cs : List Char) : Option (CharSet × List Char) := do
  let (first, rest) ← item? flags cs
  match skip flags rest with
  | [] => none
  | '-' :: after =>
    -- the minus sign may be left to be read as an item or an operator
    if peek flags after = some ']' ∨ peek flags after = some '-' then
      return (← itemSet? flags first, '-' :: after)
    else
      let (last, rest) ← item? flags (skip flags after)
      match first, last with
      | .literal a, .literal b => return (← rangeSet? flags a b, rest)
      | _, _ => none
  | rest => return (← itemSet? flags first, rest)

/-- Leading minus signs of a list of items, at most `fuel` of them, which stand for themselves. -/
def leadingMinus (flags : Flags) : Nat → List NestedSet → List Char → List NestedSet × List Char
  | fuel + 1, items, '-' :: cs =>
    leadingMinus flags fuel (⟨.single '-', 0⟩ :: items) (skip flags cs)
  | _, items, cs => (items, cs)

/-- The beginning of a bracketed set after its opening bracket: whether it is negated, and the
leading minus signs or closing bracket that stand for themselves. -/
def openBracket (flags : Flags) (cs : List Char) : Bool × List NestedSet × List Char :=
  let cs := skip flags cs
  let negated := cs.head? = some '^'
  let cs := if negated then skip flags (cs.drop 1) else cs
  match leadingMinus flags cs.length [] cs with
  | ([], ']' :: rest) => (negated, [⟨.single ']', 0⟩], rest)
  | (items, rest) => (negated, items, rest)

/-- Reads the items of a bracketed set up to its closing bracket, in at most `fuel` steps. -/
def items? (flags : Flags) : Nat → Bool → Option (NestedSet × SetOperator) → List NestedSet →
    List Char → Option (NestedSet × List Char)
  | 0, _, _, _, _ => none
  | fuel + 1, negated, left, items, cs =>
    match skip flags cs with
    | [] => none
    | ']' :: rest => (closeBracket? flags negated (combine flags left items)).map (·, rest)
    | '[' :: rest =>
      match namedClass? rest with
      | some (classNegated, set, rest) =>
        match closeSet? flags classNegated set with
        | none => none
        | some set => items? flags fuel negated left (⟨set, 0⟩ :: items) rest
      | none =>
        -- what looks like no named class is a set inside the set
        let (innerNegated, innerItems, rest) := openBracket flags rest
        match items? flags fuel innerNegated none innerItems rest with
        | none => none
        | some (set, rest) => items? flags fuel negated left (set :: items) rest
    | '&' :: '&' :: rest =>
      items? flags fuel negated (some (combine flags left items, .inter)) [] rest
    | '-' :: '-' :: rest =>
      items? flags fuel negated (some (combine flags left items, .diff)) [] rest
    | '~' :: '~' :: rest =>
      items? flags fuel negated (some (combine flags left items, .symmDiff)) [] rest
    | cs =>
      match rangeItem? flags cs with
      | none => none
      | some (set, rest) => items? flags fuel negated left (⟨set, 0⟩ :: items) rest

/-- The set written after an opening bracket, and what follows its closing bracket. -/
def bracket? (flags : Flags) (cs : List Char) : Option (NestedSet × List Char) :=
  let (negated, items, rest) := openBracket flags cs
  items? flags (cs.length + 1) negated none items rest

end CallAtlas.Pattern
