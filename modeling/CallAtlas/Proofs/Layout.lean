import CallAtlas.Code

/-!
# The layout of a method body

Instructions are laid out side by side: each one stands at the offset that those before it take up,
none is empty, and together they end within the range of offsets. This is what the check for faults
comes to, along with the rule that a protected range holds an offset.

## Main definitions

* `Code.extent`: the number of units that some instructions take up
* `Code.LaidFrom`: instructions that lie side by side from an offset on
* `Code.LaidOut`: the layout rules of a method body

## Main results

* `Code.laidFrom_cons`: the first instruction, and those after it
* `Code.fault?_eq_none_iff`: the check finds no fault exactly in what is laid out
-/

namespace CallAtlas

namespace Code

variable {is : List Instruction} {ts : List TryRange} {i : Instruction} {start : Nat}

/-- The number of units that some instructions take up. -/
def extent : List Instruction → Nat
  | [] => 0
  | i :: is => i.length.toNat + extent is

theorem extent_append (is js : List Instruction) : extent (is ++ js) = extent is + extent js := by
  induction is with
  | nil => simp [extent]
  | cons i is ih => rw [List.cons_append, extent, extent, ih, Nat.add_assoc]

/-- Instructions that lie side by side from an offset on. -/
structure LaidFrom (start : Nat) (is : List Instruction) : Prop where
  /-- An instruction stands where those before it end. -/
  addr_eq : ∀ before i after, is = before ++ i :: after → i.addr.toNat = start + extent before
  length_ne : ∀ i ∈ is, i.length ≠ 0
  /-- The last instruction ends within the range of offsets. -/
  stop_lt : start + extent is < UInt32.size

/-- The layout rules of a method body: instructions lie side by side from its entry on, and a
protected range holds an offset. -/
structure LaidOut (is : List Instruction) (ts : List TryRange) : Prop where
  instructions : LaidFrom 0 is
  tries : ∀ t ∈ ts, t.start < t.stop

theorem laidFrom_nil : LaidFrom start [] ↔ start < UInt32.size := by
  constructor
  · intro h
    exact h.stop_lt
  · intro h
    exact ⟨by simp, by simp, h⟩

/-- The first instruction stands at the offset, and the others are laid out from its end on. -/
theorem laidFrom_cons :
    LaidFrom start (i :: is) ↔
      i.addr.toNat = start ∧ i.length ≠ 0 ∧ LaidFrom (start + i.length.toNat) is := by
  constructor
  · intro h
    refine ⟨h.addr_eq [] i is rfl, h.length_ne i List.mem_cons_self, ?_, ?_, ?_⟩
    · intro before j after hsplit
      rw [h.addr_eq (i :: before) j after (by rw [hsplit, List.cons_append]), extent, Nat.add_assoc]
    · intro j hj
      exact h.length_ne j (List.mem_cons_of_mem i hj)
    · rw [Nat.add_assoc]
      exact h.stop_lt
  · rintro ⟨haddr, hlength, h⟩
    refine ⟨?_, ?_, ?_⟩
    · intro before j after hsplit
      cases before with
      | nil =>
        obtain ⟨rfl, -⟩ := List.cons.inj hsplit
        exact haddr
      | cons k before =>
        obtain ⟨rfl, hrest⟩ := List.cons.inj hsplit
        rw [h.addr_eq before j after hrest, extent, Nat.add_assoc]
    · intro j hj
      rcases List.mem_cons.mp hj with rfl | hj
      · exact hlength
      · exact h.length_ne j hj
    · rw [extent, ← Nat.add_assoc]
      exact h.stop_lt

/-- No fault is found in instructions that lie side by side, and in no others. -/
theorem instructionsFault?_eq_none_iff {expected : Offset} :
    instructionsFault? expected is = none ↔ LaidFrom expected.toNat is := by
  induction is generalizing expected with
  | nil => exact iff_of_true rfl (laidFrom_nil.mpr expected.toNat_lt_size)
  | cons i is ih =>
    rw [laidFrom_cons, instructionsFault?]
    split
    · next haddr =>
      refine iff_of_false (by simp) ?_
      rintro ⟨h, -⟩
      exact haddr (Offset.ext_toNat h)
    · next haddr =>
      obtain rfl : i.addr = expected := Decidable.not_not.mp haddr
      split
      · next hlength => exact iff_of_false (by simp) fun h => h.2.1 hlength
      · next hlength =>
        split
        · next hnone =>
          -- what ends beyond the greatest offset leaves no room for the others
          have hsize := Offset.ofNat?_eq_none_iff.mp hnone
          refine iff_of_false (by simp) ?_
          rintro ⟨-, -, h⟩
          have hstop := h.stop_lt
          omega
        · next next hnext =>
          rw [ih, Offset.toNat_advance? hnext]
          exact ⟨fun h => ⟨rfl, hlength, h⟩, fun h => h.2.2⟩

theorem triesFault?_eq_none_iff : triesFault? ts = none ↔ ∀ t ∈ ts, t.start < t.stop := by
  simp [triesFault?, List.findSome?_eq_none_iff]

/-- **The layout rules**: the check finds no fault exactly in what is laid out. -/
theorem fault?_eq_none_iff : fault? is ts = none ↔ LaidOut is ts := by
  rw [fault?, Option.or_eq_none_iff, instructionsFault?_eq_none_iff, triesFault?_eq_none_iff]
  exact ⟨fun h => ⟨h.1, h.2⟩, fun h => ⟨h.1, h.2⟩⟩

theorem laidOut (code : Code) : LaidOut code.instructions code.tries :=
  fault?_eq_none_iff.mp code.sound

end Code

end CallAtlas
