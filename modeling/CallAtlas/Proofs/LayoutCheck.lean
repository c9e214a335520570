import CallAtlas.Proofs.Layout
import CallAtlas.Proofs.Tiling

/-!
# What the layout check promises

The check of a body reports its first fault: that of the first instruction which is misplaced, empty
or too long, or else that of the first protected range without offset. The check adds lengths up and
fails when an offset overflows, while everything after it moves along a body by steps that stop at
the greatest offset. In a body that has passed, no such step ever stops short, so that the end of a
body is the sum of its lengths and an instruction ends where the next one begins, also at the very
top of the range. Offsets then increase from one instruction to the next, and a search by halving
finds an instruction by its offset.

## Main definitions

* `Code.FaultyAt`: the fault of one instruction
* `Code.FirstFault`: the fault that is reported for a layout

## Main results

* `Code.fault?_eq_some_iff`: the check finds the first fault
* `Code.toNat_next_of_mem`, `Code.toNat_stop`: offsets are sums of lengths
* `Code.bisect_eq_some_iff`, `Code.position?_eq_some_iff`: halving finds the instruction at an offset
* `Code.layout_checked`: what is accepted, what is reported, and what holds of an accepted body
-/

namespace CallAtlas

namespace Code

variable {is : List Instruction} {ts : List TryRange} {i j : Instruction} {expected a : Offset}
  {e : LayoutError} {code : Code}

/-! ## The first fault -/

/-- The fault of an instruction that should begin at an offset: a wrong position comes before a zero
length, and a zero length before an overflow. -/
inductive FaultyAt (expected : Offset) (i : Instruction) : LayoutError → Prop where
  | misplaced (haddr : i.addr ≠ expected) : FaultyAt expected i (.nonContiguous expected i.addr)
  | empty (haddr : i.addr = expected) (hlength : i.length = 0) :
    FaultyAt expected i (.emptyInstruction i.addr)
  | overflow (haddr : i.addr = expected) (hlength : i.length ≠ 0)
      (hend : UInt32.size ≤ i.addr.toNat + i.length.toNat) :
    FaultyAt expected i (.offsetOverflow i.addr i.length)

/-- The fault that is reported for a layout. -/
inductive FirstFault (is : List Instruction) (ts : List TryRange) : LayoutError → Prop where
  /-- An instruction is faulty, and those before it lie side by side. -/
  | instruction {before after : List Instruction} {i : Instruction} {expected : Offset}
      {e : LayoutError} (hsplit : is = before ++ i :: after) (hbefore : LaidFrom 0 before)
      (hexpected : expected.toNat = extent before) (hi : FaultyAt expected i e) :
    FirstFault is ts e
  /-- A protected range holds no offset, while all instructions lie side by side and the ranges
  before it hold offsets. -/
  | tryRange {before after : List TryRange} {t : TryRange} (his : LaidFrom 0 is)
      (hsplit : ts = before ++ t :: after) (hbefore : ∀ u ∈ before, u.start < u.stop)
      (ht : t.stop ≤ t.start) :
    FirstFault is ts (.badTryRange t.start t.stop)

/-- An instruction is faulty, or it stands where it should and ends within the range of offsets. -/
theorem faultyAt_or_advance? (expected : Offset) (i : Instruction) :
    (∃ e, FaultyAt expected i e) ∨
      (i.addr = expected ∧ i.length ≠ 0 ∧ ∃ next, i.addr.advance? i.length = some next) := by
  by_cases haddr : i.addr = expected
  · by_cases hlength : i.length = 0
    · exact .inl ⟨_, .empty haddr hlength⟩
    · cases hnext : i.addr.advance? i.length with
      | none => exact .inl ⟨_, .overflow haddr hlength (Offset.ofNat?_eq_none_iff.mp hnext)⟩
      | some next => exact .inr ⟨haddr, hlength, next, rfl⟩
  · exact .inl ⟨_, .misplaced haddr⟩

/-- A faulty instruction is reported, whatever comes after it. -/
theorem instructionsFault?_cons_of_faultyAt (h : FaultyAt expected i e) (is : List Instruction) :
    instructionsFault? expected (i :: is) = some e := by
  rw [instructionsFault?]
  cases h with
  | misplaced haddr => rw [if_pos haddr]
  | empty haddr hlength => rw [if_neg (not_not_intro haddr), if_pos hlength]
  | overflow haddr hlength hend =>
    have hnone : i.addr.advance? i.length = none := Offset.ofNat?_eq_none_iff.mpr hend
    rw [if_neg (not_not_intro haddr), if_neg hlength, hnone]

/-- An instruction without fault is passed over. -/
theorem instructionsFault?_cons_of_advance? {next : Offset} (haddr : i.addr = expected)
    (hlength : i.length ≠ 0) (hnext : i.addr.advance? i.length = some next)
    (is : List Instruction) :
    instructionsFault? expected (i :: is) = instructionsFault? next is := by
  rw [instructionsFault?, if_neg (not_not_intro haddr), if_neg hlength, hnext]

/-- The check of instructions reports the first faulty one. -/
theorem instructionsFault?_eq_some_iff :
    instructionsFault? expected is = some e ↔
      ∃ before i after, ∃ next : Offset, is = before ++ i :: after ∧
        LaidFrom expected.toNat before ∧ next.toNat = expected.toNat + extent before ∧
        FaultyAt next i e := by
  induction is generalizing expected with
  | nil => simp [instructionsFault?]
  | cons i is ih =>
    constructor
    · intro h
      rcases faultyAt_or_advance? expected i with ⟨e', hfault⟩ | ⟨haddr, hlength, next, hnext⟩
      · rw [instructionsFault?_cons_of_faultyAt hfault, Option.some.injEq] at h
        subst h
        exact ⟨[], i, is, expected, rfl, laidFrom_nil.mpr expected.toNat_lt_size, rfl, hfault⟩
      · rw [instructionsFault?_cons_of_advance? haddr hlength hnext, ih] at h
        obtain ⟨before, j, after, stop, hsplit, hbefore, hstop, hfault⟩ := h
        subst haddr
        rw [Offset.toNat_advance? hnext] at hbefore hstop
        refine ⟨i :: before, j, after, stop, by rw [hsplit, List.cons_append], ?_, ?_, hfault⟩
        · exact laidFrom_cons.mpr ⟨rfl, hlength, hbefore⟩
        · rw [hstop, extent, Nat.add_assoc]
    · rintro ⟨before, j, after, stop, hsplit, hbefore, hstop, hfault⟩
      cases before with
      | nil =>
        obtain ⟨rfl, -⟩ := List.cons.inj hsplit
        obtain rfl : stop = expected := Offset.ext_toNat hstop
        exact instructionsFault?_cons_of_faultyAt hfault is
      | cons k before =>
        obtain ⟨rfl, hrest⟩ := List.cons.inj hsplit
        obtain ⟨haddr, hlength, hbefore⟩ := laidFrom_cons.mp hbefore
        obtain rfl : i.addr = expected := Offset.ext_toNat haddr
        rcases faultyAt_or_advance? i.addr i with ⟨e', hfault'⟩ | ⟨-, -, next, hnext⟩
        · exfalso
          have hlt := hbefore.stop_lt
          cases hfault' with
          | misplaced h => exact h rfl
          | empty _ h => exact hlength h
          | overflow _ _ h => omega
        · rw [instructionsFault?_cons_of_advance? rfl hlength hnext, ih]
          refine ⟨before, j, after, stop, hrest, ?_, ?_, hfault⟩
          · rw [Offset.toNat_advance? hnext]
            exact hbefore
          · rw [hstop, Offset.toNat_advance? hnext, extent, Nat.add_assoc]

theorem triesFault?_eq_some_iff :
    triesFault? ts = some e ↔
      ∃ before t after, ts = before ++ t :: after ∧ (∀ u ∈ before, u.start < u.stop) ∧
        t.stop ≤ t.start ∧ e = .badTryRange t.start t.stop := by
  rw [triesFault?, List.findSome?_eq_some_iff]
  constructor
  · rintro ⟨before, t, after, hsplit, ht, hbefore⟩
    have hfault : ¬ t.start < t.stop := by
      intro hlt
      simp [hlt] at ht
    rw [if_neg hfault, Option.some.injEq] at ht
    refine ⟨before, t, after, hsplit, ?_, Nat.not_lt.mp hfault, ht.symm⟩
    intro u hu
    have hnone := hbefore u hu
    by_contra hlt
    simp [hlt] at hnone
  · rintro ⟨before, t, after, hsplit, hbefore, ht, rfl⟩
    refine ⟨before, t, after, hsplit, if_neg (Nat.not_lt.mpr ht), ?_⟩
    intro u hu
    exact if_pos (hbefore u hu)

/-- **The check finds the first fault.** -/
theorem fault?_eq_some_iff : fault? is ts = some e ↔ FirstFault is ts e := by
  rw [fault?, Option.or_eq_some_iff, instructionsFault?_eq_some_iff,
    instructionsFault?_eq_none_iff, triesFault?_eq_some_iff]
  constructor
  · rintro (⟨before, i, after, next, hsplit, hbefore, hnext, hfault⟩ |
      ⟨his, before, t, after, hsplit, hbefore, ht, rfl⟩)
    · rw [Offset.toNat_entry, Nat.zero_add] at hnext
      exact .instruction hsplit hbefore hnext hfault
    · exact .tryRange his hsplit hbefore ht
  · rintro (⟨hsplit, hbefore, hexpected, hfault⟩ | ⟨his, hsplit, hbefore, ht⟩)
    · refine .inl ⟨_, _, _, _, hsplit, hbefore, ?_, hfault⟩
      rw [Offset.toNat_entry, Nat.zero_add]
      exact hexpected
    · exact .inr ⟨his, _, _, _, hsplit, hbefore, ht, rfl⟩

theorem exists_ofParts_eq_ok_iff :
    (∃ code, ofParts is ts = .ok code ∧ code.instructions = is ∧ code.tries = ts) ↔
      LaidOut is ts := by
  rw [← fault?_eq_none_iff]
  constructor
  · rintro ⟨code, -, rfl, rfl⟩
    exact code.sound
  · intro h
    exact ⟨⟨is, ts, h⟩, ofParts_eq_ok_iff.mpr ⟨rfl, rfl⟩, rfl, rfl⟩

/-! ## Offsets are sums of lengths -/

/-- The step past an instruction does not stop short. -/
theorem toNat_next_of_mem (hi : i ∈ code.instructions) :
    i.next.toNat = i.addr.toNat + i.length.toNat := by
  obtain ⟨before, after, hsplit⟩ := List.append_of_mem hi
  have haddr := code.laidOut.instructions.addr_eq before i after hsplit
  have hlt := code.laidOut.instructions.stop_lt
  rw [hsplit, extent_append, extent] at hlt
  rw [Instruction.next, Offset.toNat_advance]
  omega

/-- A body ends at the sum of its lengths. -/
theorem toNat_stop (code : Code) : code.stop.toNat = extent code.instructions := by
  rw [stop]
  cases hlast : code.instructions.getLast? with
  | none =>
    rw [List.getLast?_eq_none_iff.mp hlast]
    rfl
  | some i =>
    obtain ⟨before, hsplit⟩ := List.getLast?_eq_some_iff.mp hlast
    have haddr := code.laidOut.instructions.addr_eq before i [] hsplit
    have hnext := toNat_next_of_mem (List.mem_of_getLast? hlast)
    rw [hsplit, extent_append, extent, extent]
    show i.next.toNat = _
    omega

/-! ## Finding an instruction by its offset -/

/-- Offsets increase from one instruction to the next. -/
theorem pairwise_addr (code : Code) :
    code.instructions.Pairwise fun i j => i.addr < j.addr := by
  refine code.tiles_instructions.pairwise.imp_of_mem ?_
  intro i j hi _ hle
  have hlt := (code.tiles_instructions.bounds hi).2.1
  rw [Offset.lt_def] at hlt ⊢
  rw [Offset.le_def] at hle
  omega

section Bisection

variable {is : Array Instruction} {low high k m n : Nat}

/-- Among increasing offsets, the smaller one stands first. -/
theorem addr_lt_iff (hsorted : is.toList.Pairwise fun i j => i.addr < j.addr)
    (hm : is[m]? = some i) (hn : is[n]? = some j) : i.addr < j.addr ↔ m < n := by
  rw [← Array.getElem?_toList, List.getElem?_eq_some_iff] at hm hn
  obtain ⟨hm, rfl⟩ := hm
  obtain ⟨hn, rfl⟩ := hn
  have hmono := List.pairwise_iff_getElem.mp hsorted
  constructor
  · intro h
    rcases Nat.lt_trichotomy m n with hlt | rfl | hgt
    · exact hlt
    · exact absurd h (Nat.lt_irrefl _)
    · exact absurd h (Nat.lt_asymm (hmono n m hn hm hgt))
  · exact hmono m n hm hn

/-- Increasing offsets differ from place to place. -/
theorem index_eq_of_addr_eq (hsorted : is.toList.Pairwise fun i j => i.addr < j.addr)
    (hm : is[m]? = some i) (hn : is[n]? = some j) (haddr : i.addr = j.addr) : m = n := by
  have hirrefl : ¬ j.addr < j.addr := Nat.lt_irrefl _
  have hless : ¬ m < n := by
    rw [← addr_lt_iff hsorted hm hn, haddr]
    exact hirrefl
  have hgreater : ¬ n < m := by
    rw [← addr_lt_iff hsorted hn hm, haddr]
    exact hirrefl
  omega

/-- Halving finds the instruction at an offset exactly if it stands in the range, as long as offsets
increase. -/
theorem bisect_eq_some_iff (hsorted : is.toList.Pairwise fun i j => i.addr < j.addr)
    {h : high ≤ is.size} :
    bisect is a low high h = some k ↔
      low ≤ k ∧ k < high ∧ ∃ i, is[k]? = some i ∧ i.addr = a := by
  fun_induction bisect is a low high h with
  | case1 low high h hlt middle hmiddle haddr =>
    have hdef : middle = low + (high - low) / 2 := rfl
    have hfound : is[middle]? = some is[middle] := Array.getElem?_eq_getElem hmiddle
    rw [Option.some.injEq]
    constructor
    · rintro rfl
      exact ⟨by omega, by omega, _, hfound, haddr⟩
    · rintro ⟨-, -, i, hi, rfl⟩
      exact index_eq_of_addr_eq hsorted hfound hi haddr
  | case2 low high h hlt middle hmiddle hne hless ih =>
    have hdef : middle = low + (high - low) / 2 := rfl
    have hfound : is[middle]? = some is[middle] := Array.getElem?_eq_getElem hmiddle
    rw [ih]
    constructor
    · rintro ⟨hlow, hhigh, hi⟩
      exact ⟨by omega, hhigh, hi⟩
    · rintro ⟨-, hhigh, i, hi, rfl⟩
      exact ⟨(addr_lt_iff hsorted hfound hi).mp hless, hhigh, i, hi, rfl⟩
  | case3 low high h hlt middle hmiddle hne hless ih =>
    have hdef : middle = low + (high - low) / 2 := rfl
    have hfound : is[middle]? = some is[middle] := Array.getElem?_eq_getElem hmiddle
    rw [ih]
    constructor
    · rintro ⟨hlow, hhigh, hi⟩
      exact ⟨hlow, by omega, hi⟩
    · rintro ⟨hlow, -, i, hi, rfl⟩
      have hgreater : i.addr < is[middle].addr := by
        rw [Offset.lt_def] at hless ⊢
        have hne' : is[middle].addr.toNat ≠ i.addr.toNat := fun heq => hne (Offset.ext_toNat heq)
        omega
      exact ⟨hlow, (addr_lt_iff hsorted hi hfound).mp hgreater, i, hi, rfl⟩
  | case4 low high h hlt =>
    refine iff_of_false (by simp) ?_
    rintro ⟨hlow, hhigh, -⟩
    omega

end Bisection

/-- The index of the instruction at an offset. -/
theorem position?_eq_some_iff {k : Nat} :
    code.position? a = some k ↔ ∃ i, code.instructions[k]? = some i ∧ i.addr = a := by
  have hsorted : code.instructions.toArray.toList.Pairwise fun i j => i.addr < j.addr :=
    code.pairwise_addr
  rw [position?, bisect_eq_some_iff hsorted, List.getElem?_toArray]
  constructor
  · rintro ⟨-, -, hi⟩
    exact hi
  · rintro ⟨i, hi, haddr⟩
    obtain ⟨hk, -⟩ := List.getElem?_eq_some_iff.mp hi
    exact ⟨Nat.zero_le k, by simpa using hk, i, hi, haddr⟩

/-- The layout rules, with offsets and lengths counted from the entry of a body. -/
theorem laidOut_iff :
    LaidOut is ts ↔
      (∀ before i after, is = before ++ i :: after → i.addr.toNat = extent before) ∧
        (∀ i ∈ is, i.length ≠ 0) ∧ extent is ≤ 4294967295 ∧ ∀ t ∈ ts, t.start < t.stop := by
  constructor
  · rintro ⟨⟨haddr, hlength, hstop⟩, htries⟩
    simp only [Nat.zero_add] at haddr hstop
    exact ⟨haddr, hlength, Nat.le_of_lt_succ hstop, htries⟩
  · rintro ⟨haddr, hlength, hstop, htries⟩
    refine ⟨⟨?_, hlength, ?_⟩, htries⟩
    · simpa only [Nat.zero_add] using haddr
    · rw [Nat.zero_add]
      exact Nat.lt_succ_of_le hstop

/-- **The layout check**: instructions and protected ranges make a body exactly if every instruction
stands at the sum of the lengths before it, none is empty, the sum of all lengths is an offset, and
every range holds an offset; otherwise the first fault is reported. In a body the end is the sum of
the lengths, the step past an instruction never stops short and leads to the next one, and the
instruction at an offset is found under its index. -/
theorem layout_checked :
    (∀ is ts,
      ((∃ code, ofParts is ts = .ok code ∧ code.instructions = is ∧ code.tries = ts) ↔
        (∀ before i after, is = before ++ i :: after → i.addr.toNat = extent before) ∧
          (∀ i ∈ is, i.length ≠ 0) ∧ extent is ≤ 4294967295 ∧ ∀ t ∈ ts, t.start < t.stop) ∧
      ∀ e, ofParts is ts = .error e ↔ FirstFault is ts e) ∧
    ∀ code : Code,
      code.stop.toNat = extent code.instructions ∧
      (∀ i ∈ code.instructions, i.next.toNat = i.addr.toNat + i.length.toNat) ∧
      (∀ k i j, code.instructions[k]? = some i → code.instructions[k + 1]? = some j →
        i.next = j.addr) ∧
      ∀ a k, code.position? a = some k ↔ ∃ i, code.instructions[k]? = some i ∧ i.addr = a := by
  refine ⟨fun is ts => ⟨?_, fun e => ?_⟩, fun code => ⟨code.toNat_stop, ?_, ?_, ?_⟩⟩
  · rw [exists_ofParts_eq_ok_iff, laidOut_iff]
  · rw [ofParts_eq_error_iff, fault?_eq_some_iff]
  · intro i hi
    exact toNat_next_of_mem hi
  · intro k i j hi hj
    have hfollows : Follows code.instructions i j := follows_iff_getElem?.mpr ⟨k, hi, hj⟩
    exact (code.tiles_instructions.follows_iff.mp hfollows).2.2
  · intro a k
    exact position?_eq_some_iff

end Code

end CallAtlas
