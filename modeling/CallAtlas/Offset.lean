import Std.Data.ExtTreeSet
import Std.Data.ExtTreeMap

/-!
# Code offsets

Positions in a method body are 32-bit words counted from the first instruction. Moving past the
last position either stops there (`advance`) or fails (`advance?`).

## Main definitions

* `Offset`: a position in a method body
* `Offset.advance`, `Offset.advance?`: the position a number of units further on

## Main results

* `Offset.toNat_advance?`: a move that succeeds is an addition of natural numbers
* `Offset.toNat_advance`: a move past the end stops at the last position
-/

namespace CallAtlas

/-- A position in a method body, counted from its first instruction. -/
structure Offset where
  word : UInt32
deriving DecidableEq, Inhabited

namespace Offset

/-- The offset as a natural number. -/
def toNat (a : Offset) : Nat := a.word.toNat

/-- The entry point of every method body. -/
def entry : Offset := ⟨0⟩

/-- The greatest offset. -/
def last : Offset := ⟨0xFFFFFFFF⟩

/-- The offset of that value, when it fits in a word. -/
def ofNat? (n : Nat) : Option Offset :=
  if n < UInt32.size then some ⟨UInt32.ofNat n⟩ else none

/-- The position `length` units after `a`, when there is one. -/
def advance? (a : Offset) (length : UInt32) : Option Offset :=
  ofNat? (a.toNat + length.toNat)

/-- The position `length` units after `a`, or the greatest one. -/
def advance (a : Offset) (length : UInt32) : Offset :=
  (a.advance? length).getD last

instance : Ord Offset := ⟨compareOn word⟩

instance : Std.TransOrd Offset := inferInstanceAs (Std.TransCmp (compareOn word))

instance : Std.LawfulEqOrd Offset where
  eq_of_compare {a b} h := by
    cases a
    cases b
    exact congrArg mk (Std.LawfulEqOrd.eq_of_compare (α := UInt32) h)

instance : LT Offset := ⟨fun a b => a.toNat < b.toNat⟩

instance : LE Offset := ⟨fun a b => a.toNat ≤ b.toNat⟩

instance (a b : Offset) : Decidable (a < b) := inferInstanceAs (Decidable (a.toNat < b.toNat))

instance (a b : Offset) : Decidable (a ≤ b) := inferInstanceAs (Decidable (a.toNat ≤ b.toNat))

theorem lt_def {a b : Offset} : a < b ↔ a.toNat < b.toNat := Iff.rfl

theorem le_def {a b : Offset} : a ≤ b ↔ a.toNat ≤ b.toNat := Iff.rfl

theorem toNat_lt_size (a : Offset) : a.toNat < UInt32.size := a.word.toNat_lt

@[ext] theorem ext_toNat {a b : Offset} (h : a.toNat = b.toNat) : a = b := by
  cases a
  cases b
  exact congrArg mk (UInt32.toNat_inj.mp h)

@[simp] theorem toNat_entry : entry.toNat = 0 := rfl

@[simp] theorem toNat_last : last.toNat = UInt32.size - 1 := rfl

theorem toNat_of_ofNat? {n : Nat} {a : Offset} (h : ofNat? n = some a) : a.toNat = n := by
  unfold ofNat? at h
  split at h
  · cases h
    exact UInt32.toNat_ofNat_of_lt' ‹_›
  · cases h

theorem ofNat?_eq_none_iff {n : Nat} : ofNat? n = none ↔ UInt32.size ≤ n := by
  simp [ofNat?]

@[simp] theorem ofNat?_toNat (a : Offset) : ofNat? a.toNat = some a := by
  unfold ofNat?
  rw [if_pos a.toNat_lt_size]
  simp [toNat]

/-- A move that succeeds is an addition of natural numbers. -/
theorem toNat_advance? {a b : Offset} {length : UInt32} (h : a.advance? length = some b) :
    b.toNat = a.toNat + length.toNat :=
  toNat_of_ofNat? h

/-- A move past the end stops at the last position. -/
theorem toNat_advance (a : Offset) (length : UInt32) :
    (a.advance length).toNat = min (a.toNat + length.toNat) (UInt32.size - 1) := by
  unfold advance
  cases h : a.advance? length with
  | some b =>
    have := toNat_advance? h
    have := b.toNat_lt_size
    simp only [Option.getD_some]
    omega
  | none =>
    have := ofNat?_eq_none_iff.mp h
    simp only [Option.getD_none, toNat_last]
    omega

end Offset

end CallAtlas
