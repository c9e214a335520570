import CallAtlas.CharSet.Property

/-!
# Regular expressions

Expressions over characters and positions of a text, and the functions that build them. These keep
expressions in a form without needless parts: neighbouring literals are one literal, a choice
between characters is a set, and what all alternatives begin with stands before the choice.

## Main definitions

* `Regex`: expressions
* `Anchor`: conditions on positions
* `Regex.ofSet`, `Regex.concat`, `Regex.choice`, `Regex.repeated`: building expressions
* `Regex.minLength?`, `Regex.maxLength?`: bounds on the lengths of occurrences
-/

namespace CallAtlas

/-- A condition on a position between the characters of words and others. -/
inductive WordCondition where
  | boundary
  | notBoundary
  | start
  | stop
  /-- No character of a word stands before the position. -/
  | startHalf
  /-- No character of a word stands after the position. -/
  | stopHalf
deriving DecidableEq, Inhabited

/-- A condition on a position of a text. -/
inductive Anchor where
  | textStart
  | textEnd
  | lineStart
  | lineEnd
  /-- As `lineStart`, where a carriage return, a line feed or both in this order end a line. -/
  | anyLineStart
  /-- As `lineEnd`, where a carriage return, a line feed or both in this order end a line. -/
  | anyLineEnd
  /-- A condition on words, which may be words of ASCII characters only. -/
  | word (condition : WordCondition) (ascii : Bool)
deriving DecidableEq, Inhabited

/-- A regular expression. -/
inductive Regex where
  | empty
  | literal (chars : List Char)
  /-- A character of a set. A set of ASCII characters that was written as one is not taken for the
  same as another set with these characters. -/
  | oneOf (set : CharSet) (isAscii : Bool)
  | anchor (condition : Anchor)
  /-- An expression whose occurrence can be referred to by number. -/
  | group (index : Nat) (r : Regex)
  | seq (a b : Regex)
  | alt (a b : Regex)
  /-- At least `min` and at most `max` occurrences in a row; a lazy repetition prefers few. -/
  | times (r : Regex) (min : Nat) (max : Option Nat) (isLazy : Bool)
deriving DecidableEq, Inhabited

namespace Regex

/-- The least length of an occurrence; none when there may be no occurrence. -/
def minLength? : Regex → Option Nat
  | empty => some 0
  | literal chars => some chars.length
  | oneOf set _ => if set.ranges = [] then none else some 1
  | anchor _ => some 0
  | group _ r => r.minLength?
  | seq a b => do return (← a.minLength?) + (← b.minLength?)
  | alt a b => do return min (← a.minLength?) (← b.minLength?)
  | times r min _ _ => do return (← r.minLength?) * min

/-- The greatest length of an occurrence; none when there is no bound, or may be no occurrence. -/
def maxLength? : Regex → Option Nat
  | empty => some 0
  | literal chars => some chars.length
  | oneOf set _ => if set.ranges = [] then none else some 1
  | anchor _ => some 0
  | group _ r => r.maxLength?
  | seq a b => do return (← a.maxLength?) + (← b.maxLength?)
  | alt a b => do return max (← a.maxLength?) (← b.maxLength?)
  | times r _ max _ => do return (← r.maxLength?) * (← max)

/-- The expressions that a sequence consists of. -/
def parts : Regex → List Regex
  | empty => []
  | seq a b => a :: b.parts
  | r => [r]

/-- The expressions that a choice offers. -/
def branches : Regex → List Regex
  | alt a b => a :: b.branches
  | r => [r]

/-- The expressions one after the other, as they stand. -/
def seqAll : List Regex → Regex
  | [] => empty
  | [r] => r
  | r :: rs => seq r (seqAll rs)

/-- One of the expressions, as they stand. -/
def altAll : List Regex → Regex
  | [] => oneOf .empty true
  | [r] => r
  | r :: rs => alt r (altAll rs)

/-- Joins neighbouring literals. -/
def joinLiterals : List Regex → List Regex
  | [] => []
  | literal a :: rest =>
    match joinLiterals rest with
    | literal b :: rest => literal (a ++ b) :: rest
    | rest => literal a :: rest
  | r :: rest => r :: joinLiterals rest

/-- One of the characters of a set. -/
def ofSet (set : CharSet) (isAscii : Bool) : Regex :=
  match set.ranges with
  | [] => oneOf .empty true
  | [(first, last)] => if first = last then literal [Char.ofNat first] else oneOf set isAscii
  | _ => oneOf set isAscii

/-- The expressions one after the other. -/
def concat (rs : List Regex) : Regex := seqAll (joinLiterals (rs.flatMap parts))

/-- The character of a literal that has only one. -/
def single? : Regex → Option Char
  | literal [c] => some c
  | _ => none

/-- The set of an expression that is one. -/
def set? : Regex → Option CharSet
  | oneOf set _ => some set
  | _ => none

/-- One of the expressions, none of which is a choice. A choice between single characters is a set,
and so is a choice between sets. -/
def merged (rs : List Regex) : Regex :=
  match rs with
  | [] | [_] => altAll rs
  | _ =>
    match rs.mapM single? with
    | some chars => ofSet (.ofList (chars.map .single)) false
    | none =>
      match rs.mapM set? with
      | some sets => ofSet (.ofList sets) false
      | none => altAll rs

/-- What two lists begin with. -/
def commonStart : List Regex → List Regex → List Regex
  | a :: as, b :: bs => if a = b then a :: commonStart as bs else []
  | _, _ => []

/-- Whether an expression is a sequence. -/
def isSeq : Regex → Bool
  | seq _ _ => true
  | _ => false

/-- One of the expressions. What sequences all begin with is put before the choice. -/
def choice (rs : List Regex) : Regex :=
  match rs.flatMap branches with
  | first :: second :: rest =>
    let rs := first :: second :: rest
    let start := (second :: rest).foldl (fun start r => commonStart start r.parts) first.parts
    if rs.all isSeq && !start.isEmpty then
      let rests := rs.map fun r => seqAll (r.parts.drop start.length)
      concat (start ++ [merged (rests.flatMap branches)])
    else merged rs
  | rs => merged rs

/-- At least `min` and at most `max` occurrences in a row. Occurrences without characters are not
repeated. -/
def repeated (r : Regex) (min : Nat) (max : Option Nat) (isLazy : Bool) : Regex :=
  let isWidthless := r.maxLength? = some 0
  let min := if isWidthless then Nat.min min 1 else min
  let max := if isWidthless then some (Nat.min (max.getD 1) 1) else max
  if max = some 0 then empty else if min = 1 ∧ max = some 1 then r else times r min max isLazy

end Regex

end CallAtlas
