import CallAtlas.Block

/-!
# Exception regions

A region is a protected range whose handlers are tied to the blocks that hold them. A block
belongs to the first region, in listing order, whose range matches its own.

## Main definitions

* `Region`, `Region.Handler`: a protected range and its handlers
* `Region.overlaps`: whether a region matches a range
* `Region.indexOf?`: the first matching region
-/

namespace CallAtlas

/-- A handler, and the start of the block that holds its first instruction; none when it lies
outside of the body. -/
structure Region.Handler where
  type : Option String
  addr : Offset
  block : Option Offset
deriving DecidableEq, Inhabited

/-- A protected range `[start, stop)` and its handlers. -/
structure Region where
  start : Offset
  stop : Offset
  handlers : List Region.Handler
deriving DecidableEq, Inhabited

namespace Region

/-- The region of a protected range, given the block of each offset. -/
def ofTry (blockOf : Offset → Option Offset) (t : TryRange) : Region :=
  ⟨t.start, t.stop, t.clauses.map fun c => ⟨c.type, c.handler, blockOf c.handler⟩⟩

/-- Whether a region matches the range `[start, stop)`: one contains the other, or an end of the
region lies strictly inside the range. -/
def overlaps (r : Region) (start stop : Offset) : Bool :=
  (r.start ≤ start ∧ stop ≤ r.stop) ∨ (start ≤ r.start ∧ r.stop ≤ stop)
    ∨ (start < r.start ∧ r.start < stop) ∨ (start < r.stop ∧ r.stop < stop)

/-- The index of the first region that matches a range. -/
def indexOf? (regions : List Region) (start stop : Offset) : Option Nat :=
  regions.findIdx? (·.overlaps start stop)

/-- The range in hexadecimal, then each handler with its type, a star standing for all types. -/
def text (r : Region) : String :=
  Text.hex r.start.toNat ++ ":" ++ Text.hex r.stop.toNat
    ++ String.join (r.handlers.map fun h =>
      " (" ++ h.type.getD "*" ++ " -> " ++ Text.hex h.addr.toNat ++ ")")

end Region

end CallAtlas
