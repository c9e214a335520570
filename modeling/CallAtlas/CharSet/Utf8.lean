import CallAtlas.CharSet

/-!
# Characters as bytes

In UTF-8 a character is a sequence of one to four bytes. A set of characters is a union of
sequences of byte ranges, in ascending order.

## Main definitions

* `CharSet.byteSequences`: the sequences of byte ranges of a set
* `CharSet.byHead`: sequences by what they begin with
-/

namespace CallAtlas.CharSet

/-- A sequence of byte ranges, both ends of each included. -/
abbrev ByteSequence : Type := List (Nat × Nat)

/-- The sequences of `count` continuation bytes after a byte counted from `base`, for the numbers
from `first` to `last` in base 64. -/
def sequencesBetween (base : Nat) : Nat → Nat → Nat → List ByteSequence
  | 0, first, last => [[(base + first, base + last)]]
  | count + 1, first, last =>
    let block := 64 ^ (count + 1)
    let (a, low) := (first / block, first % block)
    let (b, high) := (last / block, last % block)
    let under (byte : Nat) (s : List ByteSequence) : List ByteSequence :=
      s.map ((base + byte, base + byte) :: ·)
    if a = b ∧ ¬(low = 0 ∧ high = block - 1) then
      under a (sequencesBetween 0x80 count low high)
    else
      -- an incomplete block at either end, and the complete ones between them
      let before := if low = 0 then [] else under a (sequencesBetween 0x80 count low (block - 1))
      let after := if high = block - 1 then [] else under b (sequencesBetween 0x80 count 0 high)
      let a := if low = 0 then a else a + 1
      let b := if high = block - 1 then b + 1 else b
      let between := (base + a, base + (b - 1)) :: List.replicate (count + 1) (0x80, 0xBF)
      before ++ (if a < b then [between] else []) ++ after

/-- The code points by the number of their continuation bytes, each with its leading byte's least
value: first code point, last code point, number and value. -/
def encodings : List (Nat × Nat × Nat × Nat) :=
  [(0, 0x7F, 0, 0), (0x80, 0x7FF, 1, 0xC0), (0x800, 0xD7FF, 2, 0xE0), (0xE000, 0xFFFF, 2, 0xE0),
    (0x10000, lastCode, 3, 0xF0)]

/-- The sequences of byte ranges of a set. -/
def byteSequences (s : CharSet) : List ByteSequence :=
  s.ranges.flatMap fun r => encodings.flatMap fun (first, last, count, base) =>
    let (low, high) := (max r.1 first, min r.2 last)
    if low ≤ high then sequencesBetween base count low high else []

/-- The first ranges of some sequences, each with what follows it; neighbours that begin with the
same range go together. -/
def byHead : List ByteSequence → List ((Nat × Nat) × List ByteSequence)
  | [] => []
  | [] :: rest => byHead rest
  | (r :: tail) :: rest =>
    match byHead rest with
    | (s, tails) :: groups =>
      if r = s then (r, tail :: tails) :: groups else (r, [tail]) :: (s, tails) :: groups
    | [] => [(r, [tail])]

end CallAtlas.CharSet
