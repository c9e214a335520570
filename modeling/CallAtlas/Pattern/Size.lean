import CallAtlas.CharSet.Utf8
import CallAtlas.Pattern.Regex
import Std.Data.HashMap

/-!
# The size of expressions

An expression is measured by the automaton that reads the bytes of a text with it: thirty-two bytes
for a state, eight for a range of bytes that leads out of a state, and four for a branch without a
byte. Repetitions are written out. The automaton that reads backwards is measured too, and neither
may be larger than ten mebibytes.

The states that read a set of characters are shared where they do the same. Sharing is not complete:
states are looked up in a memory with a fixed number of slots, where a new state drives out the one
that had its slot. What is shared therefore depends on the numbers of the states, and the states of
an automaton are counted in the order in which they are made.

## Main definitions

* `Automaton.Extent`: how many states an automaton has, and how large they are
* `Automaton.Pool`: an automaton that grows, and the states that it can share
* `Regex.extend`: the automaton with the states of an expression
* `Regex.automatonSize`: the size of the automaton that searches for an expression
* `Regex.isSmall`: whether an expression is small enough
-/

namespace CallAtlas

/-- The direction in which an automaton reads a text. -/
inductive Direction where
  | forward
  | backward
deriving DecidableEq, Inhabited

namespace Automaton

/-- The size of a state. -/
def stateSize : Nat := 32

/-- The size of a range of bytes that leads out of a state. -/
def rangeSize : Nat := 8

/-- The size of a branch. -/
def branchSize : Nat := 4

/-- The greatest size allowed. -/
def limit : Nat := 10 * 1024 * 1024

/-- How far an automaton has grown. -/
structure Extent where
  /-- The number of states, which is also the number that the next state gets. -/
  states : Nat := 0
  /-- The size of the states. -/
  size : Nat := 0
deriving DecidableEq, Inhabited

namespace Extent

/-- One more state, with some bytes of its own. -/
def pushWith (bytes : Nat) (e : Extent) : Extent := ⟨e.states + 1, e.size + stateSize + bytes⟩

/-- One more state. -/
def push (e : Extent) : Extent := e.pushWith 0

/-- More states. -/
def pushMany (count : Nat) (e : Extent) : Extent :=
  ⟨e.states + count, e.size + stateSize * count⟩

/-- One more state with some branches. -/
def pushFork (branches : Nat) (e : Extent) : Extent := e.pushWith (branchSize * branches)

/-- One more state with some ranges of bytes that lead out of it. -/
def pushRanges (ranges : Nat) (e : Extent) : Extent := e.pushWith (rangeSize * ranges)

/-- The states of some copies of the same; there are no more once the limit is exceeded. -/
def copies (step : Extent → Extent) : Nat → Extent → Extent
  | 0, e => e
  | count + 1, e => if limit < e.size then e else copies step count (step e)

end Extent

/-- The digest of what a state does: its numbers one after the other, each of them mixed in by an
exclusive or and a multiplication. -/
def digest (key : List Nat) : UInt64 :=
  key.foldl (fun h n => (h ^^^ n.toUInt64) * 1099511628211) 14695981039346656037

/-- An automaton that grows, and the states that it can share. -/
structure Pool where
  extent : Extent
  /-- What the state in a slot does, and its number. -/
  slots : Std.HashMap Nat (List Nat × Nat) := {}

/-- A new state with some bytes of its own that does what `key` says, put into a slot. -/
def Pool.make (slot bytes : Nat) (key : List Nat) : Pool → Nat × Pool
  | ⟨extent, slots⟩ =>
    (extent.states, ⟨extent.pushWith bytes, slots.insert slot (key, extent.states)⟩)

/-- The state that does what `key` says, found in one of `capacity` slots or made with some bytes of
its own. -/
def Pool.find (capacity bytes : Nat) (key : List Nat) (p : Pool) : Nat × Pool :=
  let slot := (digest key).toNat % capacity
  match p.slots[slot]? with
  | some (known, number) => if known = key then (number, p) else p.make slot bytes key
  | none => p.make slot bytes key

/-- The state that reads one of some sequences of at most `depth` byte ranges and goes on to the
state `target`. What may come after the first ranges is made before it. -/
def readSequences (target : Nat) : Nat → List CharSet.ByteSequence → Pool → Nat × Pool
  | 0, _, p => (target, p)
  | depth + 1, sequences, p =>
    match CharSet.byHead sequences with
    | [] => (target, p)
    | groups =>
      let (key, p) := groups.foldl (fun (key, p) (range, tails) =>
        let (next, p) := readSequences target depth tails p
        (next :: range.2 :: range.1 :: key, p)) ([], p)
      p.find 10000 (rangeSize * groups.length) key.reverse

/-- The states that read a sequence of byte ranges from its end and go on to the state `target`. -/
def readBackwards (target : Nat) (sequence : CharSet.ByteSequence) (p : Pool) : Pool :=
  (sequence.foldl (fun (next, p) range => p.find 1000 0 [next, range.1, range.2]) (target, p)).2

/-- The states that read a character of a set. -/
def readSet (direction : Direction) (set : CharSet) (e : Extent) : Extent :=
  if set.isAscii then e.push.pushRanges set.ranges.length
  else
    let sequences := set.byteSequences
    match direction with
    | .forward => (readSequences e.states 4 sequences ⟨e.push, {}⟩).2.extent
    | .backward =>
      let start : Pool := ⟨(e.pushFork sequences.length).push, {}⟩
      (sequences.foldl (fun p sequence => readBackwards (e.states + 1) sequence p) start).extent

/-- Cuts a list of words at the empty ones. -/
def chunks : List (List UInt8) → List (List (List UInt8))
  | [] => [[]]
  | word :: words =>
    match word, chunks words with
    | [], rest => [] :: rest
    | word, chunk :: rest => (word :: chunk) :: rest
    | word, [] => [[word]]

/-- The states that read one of some words of at most `depth` bytes, the final state apart. Words
with a common beginning share its states, unless a word that ends there stands between them. -/
def readWords : Nat → List (List UInt8) → Extent → Extent
  | 0, _, e => e
  | depth + 1, words, e =>
    if words.all (·.isEmpty) then e
    else
      -- an empty word that is repeated at the beginning counts once
      let words := if words.head? = some [] then [] :: words.dropWhile (·.isEmpty) else words
      let chunks := chunks words
      let filled := chunks.filter (! ·.isEmpty)
      let e := filled.foldl (fun e chunk =>
        let bytes := (chunk.filterMap (·.head?)).eraseDups
        let e := if bytes.length = 1 then e.push else e.pushRanges bytes.length
        bytes.foldl (fun e b =>
          readWords depth (chunk.filterMap fun word =>
            if word.head? = some b then some word.tail else none) e) e) e
      e.pushFork (filled.length + (chunks.length - 1))

/-- The states that read one of some literals. -/
def readLiterals (direction : Direction) (literals : List (List Char)) (e : Extent) : Extent :=
  let words := literals.map fun chars =>
    let bytes := chars.flatMap String.utf8EncodeChar
    if direction = .forward then bytes else bytes.reverse
  readWords (words.foldl (fun n word => max n word.length) 0) words e.push

end Automaton

namespace Regex

open Automaton

/-- The characters of a literal. -/
def literal? : Regex → Option (List Char)
  | literal chars => some chars
  | _ => none

/-- The literals of a choice between literals. -/
def literals? : Regex → Option (List (List Char))
  | alt a b => (a :: b.branches).mapM literal?
  | _ => none

/-- The states of a repetition of `r`, where `step` adds the states of one occurrence. -/
def extendRepeated (step : Extent → Extent) (r : Regex) (min : Nat) (max : Option Nat)
    (e : Extent) : Extent :=
  match min, max with
  | 0, none =>
    -- what may occur without a character is repeated by one state more
    if (r.minLength?).any (0 < ·) then step (e.pushFork 2)
    else (((step e).pushFork 2).pushFork 2).push
  | min, none => (e.copies step min).pushFork 2
  | 0, some 1 => (step (e.pushFork 2)).push
  | min, some max =>
    if min = max then e.copies step min
    else
      let required := if min = 0 then e.push else e.copies step min
      required.push.copies (fun e => step (e.pushFork 2)) (max - min)

/-- The automaton with the states of an expression; `isRest` says whether the expression is what is
left of a choice after its first two branches. The state that branches is made after these two. -/
def extend (direction : Direction) (isRest : Bool) : Regex → Extent → Extent
  | empty, e => e.push
  | literal chars, e => e.pushMany (chars.map Char.utf8Size).sum
  | oneOf set _, e => readSet direction set e
  | anchor _, e => e.push
  | group _ r, e =>
    match direction with
    | .forward => (r.extend direction false e.push).push
    | .backward => r.extend direction false e
  | seq a b, e =>
    match direction with
    | .forward => b.extend direction false (a.extend direction false e)
    | .backward => a.extend direction false (b.extend direction false e)
  | alt a (alt b c), e =>
    if isRest then (alt b c).extend direction true (a.extend direction false e)
    else
      match (alt a (alt b c)).literals? with
      | some literals => readLiterals direction literals e
      | none =>
        let e := b.extend direction false (a.extend direction false e)
        c.extend direction true (e.pushFork (c.branches.length + 2)).push
  | alt a b, e =>
    if isRest then b.extend direction false (a.extend direction false e)
    else
      match (alt a b).literals? with
      | some literals => readLiterals direction literals e
      | none => ((b.extend direction false (a.extend direction false e)).pushFork 2).push
  | times r min max _, e => extendRepeated (r.extend direction false) r min max e

/-- Whether all occurrences of an expression begin at the start of the text. -/
def startsText : Regex → Bool
  | anchor condition => condition = .textStart
  | group _ r => r.startsText
  | seq a b => a.startsText || (a.maxLength? = some 0 && b.startsText)
  | alt a b => a.startsText && b.startsText
  | times r min _ _ => 0 < min && r.startsText
  | _ => false

/-- Whether all occurrences of an expression end at the end of the text. -/
def endsText : Regex → Bool
  | anchor condition => condition = .textEnd
  | group _ r => r.endsText
  | seq a b => b.endsText || (b.maxLength? = some 0 && a.endsText)
  | alt a b => a.endsText && b.endsText
  | times r min _ _ => 0 < min && r.endsText
  | _ => false

/-- The size of the automaton that searches for an expression. Unless occurrences begin where
reading begins, it first skips any bytes; forwards it also notes where the occurrence is. -/
def automatonSize (direction : Direction) (r : Regex) : Nat :=
  let start (isAnchored : Bool) : Extent :=
    if isAnchored then Extent.push {} else ((Extent.pushFork 2 {}).push).pushRanges 1
  match direction with
  | .forward => ((r.extend direction false (start r.startsText).push).pushMany 2).size
  | .backward => (r.extend direction false (start r.endsText)).push.size

/-- The least number of literals for which a choice between them is made without an automaton. -/
def manyLiterals : Nat := 3000

/-- Whether the automata that search for an expression are small enough, or not needed. -/
def isSmall (r : Regex) : Bool :=
  r.literals?.any (manyLiterals ≤ ·.length)
    || (r.automatonSize .forward ≤ limit && r.automatonSize .backward ≤ limit)

end Regex

end CallAtlas
