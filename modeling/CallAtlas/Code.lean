import CallAtlas.Instruction
import CallAtlas.Text

/-!
# Method bodies

A method body is a list of instructions laid out without gaps from offset zero, and a list of
protected ranges with the handlers of the exceptions raised inside. `Code` holds a body together
with the fact that its layout has no fault; `Code.ofParts` looks for the first one.

## Main definitions

* `TryRange`, `CatchClause`: protected ranges and their handlers
* `LayoutError`: the faults of a layout
* `Code`, `Code.ofParts`: bodies without fault
* `Code.stop`, `Code.position?`: the end of a body and the index of an instruction
-/

namespace CallAtlas

/-- A handler of the exceptions of a type, or of all of them. -/
structure CatchClause where
  type : Option String
  handler : Offset
deriving DecidableEq, Inhabited

/-- A protected range `[start, stop)` and its handlers. -/
structure TryRange where
  start : Offset
  stop : Offset
  clauses : List CatchClause
deriving DecidableEq, Inhabited

/-- A fault in the layout of a method body. -/
inductive LayoutError where
  /-- An instruction does not begin where the one before it ends. -/
  | nonContiguous (expected found : Offset)
  /-- An instruction has no extent. -/
  | emptyInstruction (addr : Offset)
  /-- An instruction ends beyond the greatest offset. -/
  | offsetOverflow (addr : Offset) (length : UInt32)
  /-- A protected range holds no offset. -/
  | badTryRange (start stop : Offset)
deriving DecidableEq

/-- The report of a layout fault. -/
def LayoutError.message : LayoutError → String
  | nonContiguous expected found =>
    "instruction at " ++ Text.decimal found.toNat
      ++ " does not follow previous instruction (expected " ++ Text.decimal expected.toNat ++ ")"
  | emptyInstruction addr =>
    "instruction at " ++ Text.decimal addr.toNat ++ " has a zero length"
  | offsetOverflow addr length =>
    "instruction at " ++ Text.decimal addr.toNat ++ " of length " ++ Text.decimal length.toNat
      ++ " overflows code offsets"
  | badTryRange start stop =>
    "try item [" ++ Text.decimal start.toNat ++ ", " ++ Text.decimal stop.toNat
      ++ ") is empty or reversed"

namespace Code

/-- The first fault of instructions that should begin at `expected`: a wrong position comes before
a zero length, and a zero length before an overflow. -/
def instructionsFault? (expected : Offset) : List Instruction → Option LayoutError
  | [] => none
  | i :: is =>
    if i.addr ≠ expected then some (.nonContiguous expected i.addr)
    else if i.length = 0 then some (.emptyInstruction i.addr)
    else match i.addr.advance? i.length with
      | none => some (.offsetOverflow i.addr i.length)
      | some next => instructionsFault? next is

/-- The first protected range that holds no offset. -/
def triesFault? (tries : List TryRange) : Option LayoutError :=
  tries.findSome? fun t => if t.start < t.stop then none else some (.badTryRange t.start t.stop)

/-- The first fault of a layout: those of the instructions come before those of the ranges. -/
def fault? (instructions : List Instruction) (tries : List TryRange) : Option LayoutError :=
  (instructionsFault? .entry instructions).or (triesFault? tries)

end Code

/-- A method body whose layout has no fault. -/
structure Code where
  instructions : List Instruction
  tries : List TryRange
  sound : Code.fault? instructions tries = none
deriving DecidableEq

namespace Code

/-- The body made of these instructions and ranges, or the first fault of their layout. -/
def ofParts (instructions : List Instruction) (tries : List TryRange) : Except LayoutError Code :=
  match h : fault? instructions tries with
  | none => .ok ⟨instructions, tries, h⟩
  | some e => .error e

/-- The body without instruction. -/
def empty : Code := ⟨[], [], rfl⟩

instance : Inhabited Code := ⟨empty⟩

/-- The offset just past the last instruction. -/
def stop (code : Code) : Offset :=
  match code.instructions.getLast? with
  | none => .entry
  | some i => i.next

/-- The index of the instruction at an offset, among those from `low` up to `high` of instructions
in the order of their offsets: the range is halved until it is found or empty. -/
def bisect (is : Array Instruction) (a : Offset) (low high : Nat) (h : high ≤ is.size) :
    Option Nat :=
  if hlt : low < high then
    let middle := low + (high - low) / 2
    have hmiddle : middle < is.size := by omega
    if is[middle].addr = a then some middle
    else if is[middle].addr < a then bisect is a (middle + 1) high h
    else bisect is a low middle (by omega)
  else none
termination_by high - low

/-- The index of the instruction at an offset. -/
def position? (code : Code) (a : Offset) : Option Nat :=
  let is := code.instructions.toArray
  bisect is a 0 is.size (Nat.le_refl _)

theorem ofParts_eq_ok_iff {is : List Instruction} {ts : List TryRange} {code : Code} :
    ofParts is ts = .ok code ↔ code.instructions = is ∧ code.tries = ts := by
  constructor
  · intro h
    unfold ofParts at h
    split at h
    · cases h
      exact ⟨rfl, rfl⟩
    · cases h
  · rintro ⟨rfl, rfl⟩
    unfold ofParts
    split
    · rfl
    · next e h => exact absurd (code.sound.symm.trans h) (by simp)

theorem ofParts_eq_error_iff {is : List Instruction} {ts : List TryRange} {e : LayoutError} :
    ofParts is ts = .error e ↔ fault? is ts = some e := by
  constructor
  · intro h
    unfold ofParts at h
    split at h
    · cases h
    · cases h
      assumption
  · intro h
    unfold ofParts
    split
    · next h' => exact absurd (h.symm.trans h') (by simp)
    · next e' h' => exact congrArg _ (Option.some.inj (h'.symm.trans h))

end Code

end CallAtlas
