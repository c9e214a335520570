import CallAtlas.BlockGraph
import CallAtlas.Proofs.Tiling

/-!
# The partition of a body into blocks

Cutting a body keeps its instructions and their order, and puts the cuts exactly where they
belong: no two neighbours inside a block are to be separated, and those on the two sides of a cut
are. Since instructions lie side by side, so do the blocks.

## Main results

* `Block.follows_flatMap_instructions`: neighbours lie inside a block, or on the two sides of a cut
* `Code.tiles_blocks`: the blocks of a body lead from its entry to its end
* `Code.exists_head_iff`: where blocks start
* `Code.find?_blocks_eq_some_iff`, `Code.startingAt?_blocks_eq_some_iff`: looking blocks up
* `BlockGraph.partition_ofMethod`: the blocks of a method with a body
-/

namespace CallAtlas

namespace Block

@[simp] theorem head?_instructions (b : Block) : b.instructions.head? = some b.head := rfl

@[simp] theorem getLast?_instructions (b : Block) : b.instructions.getLast? = some b.last :=
  List.getLast?_eq_some_getLast _

theorem head_mem (b : Block) : b.head ∈ b.instructions := List.mem_cons_self

theorem last_mem (b : Block) : b.last ∈ b.instructions := List.getLast_mem _

theorem contains_iff {b : Block} {a : Offset} : b.contains a = true ↔ b.start ≤ a ∧ a < b.stop := by
  simp [contains]

/-- Neighbours among the instructions of some blocks are neighbours in a block, or the last
instruction of a block and the first one of the next. -/
theorem follows_flatMap_instructions {bs : List Block} {i j : Instruction} :
    Follows (bs.flatMap instructions) i j ↔
      (∃ b ∈ bs, Follows b.instructions i j) ∨
        ∃ b c, Follows bs b c ∧ b.last = i ∧ c.head = j := by
  induction bs with
  | nil => simp
  | cons b bs ih =>
    have hhead : (bs.flatMap instructions).head? = some j ↔ ∃ c, bs.head? = some c ∧ c.head = j := by
      cases bs <;> simp
    rw [List.flatMap_cons, follows_append, ih, getLast?_instructions, hhead]
    constructor
    · rintro (h | (⟨c, hc, h⟩ | ⟨c, d, h, hl, hh⟩) | ⟨hl, c, hc, hh⟩)
      · exact .inl ⟨b, List.mem_cons_self, h⟩
      · exact .inl ⟨c, List.mem_cons_of_mem _ hc, h⟩
      · exact .inr ⟨c, d, follows_cons.mpr (.inr h), hl, hh⟩
      · exact .inr ⟨b, c, follows_cons.mpr (.inl ⟨rfl, hc⟩), Option.some.inj hl, hh⟩
    · rintro (⟨c, hc, h⟩ | ⟨c, d, h, hl, hh⟩)
      · rcases List.mem_cons.mp hc with rfl | hc
        · exact .inl h
        · exact .inr (.inl (.inl ⟨c, hc, h⟩))
      · rcases follows_cons.mp h with ⟨rfl, hd⟩ | h
        · exact .inr (.inr ⟨congrArg some hl, d, hd, hh⟩)
        · exact .inr (.inl (.inr ⟨c, d, h, hl, hh⟩))

/-! ## Where a list of instructions is cut -/

/-- The first instruction stands alone, or before a cut, or joins the block that follows. -/
theorem split_cons_cases (cut : Instruction → Instruction → Bool) (i : Instruction)
    (is : List Instruction) :
    split cut (i :: is) = [⟨i, []⟩] ∨
      ∃ b bs, split cut is = b :: bs ∧
        ((cut i b.head = true ∧ split cut (i :: is) = ⟨i, []⟩ :: b :: bs) ∨
          (cut i b.head = false ∧ split cut (i :: is) = ⟨i, b.instructions⟩ :: bs)) := by
  rw [split]
  split
  · exact .inl rfl
  · next b bs h =>
    refine .inr ⟨b, bs, h, ?_⟩
    split
    · next hcut => exact .inl ⟨hcut, rfl⟩
    · next hcut => exact .inr ⟨Bool.eq_false_iff.mpr hcut, rfl⟩

/-- Neighbours inside a block are not to be separated. -/
theorem isChain_instructions_of_mem_split {cut : Instruction → Instruction → Bool}
    {is : List Instruction} {b : Block} (hb : b ∈ split cut is) :
    b.instructions.IsChain fun i j => cut i j = false := by
  induction is generalizing b with
  | nil => cases hb
  | cons i is ih =>
    rcases split_cons_cases cut i is with h | ⟨c, cs, hs, ⟨-, h⟩ | ⟨hcut, h⟩⟩ <;> rw [h] at hb
    · obtain rfl := List.mem_singleton.mp hb
      exact List.isChain_singleton i
    · rcases List.mem_cons.mp hb with rfl | hb
      · exact List.isChain_singleton i
      · exact ih (hs ▸ hb)
    · rcases List.mem_cons.mp hb with rfl | hb
      · refine List.isChain_cons.mpr ⟨fun j hj => ?_, ih (hs ▸ List.mem_cons_self)⟩
        obtain rfl : c.head = j := by simpa using hj
        exact hcut
      · exact ih (hs ▸ List.mem_cons_of_mem _ hb)

/-- Instructions on the two sides of a cut are to be separated. -/
theorem isChain_split (cut : Instruction → Instruction → Bool) (is : List Instruction) :
    (split cut is).IsChain fun b c => cut b.last c.head = true := by
  induction is with
  | nil => exact List.isChain_nil
  | cons i is ih =>
    rcases split_cons_cases cut i is with h | ⟨c, cs, hs, ⟨hcut, h⟩ | ⟨-, h⟩⟩ <;> rw [h]
    · exact List.isChain_singleton _
    · rw [hs] at ih
      exact List.isChain_cons_cons.mpr ⟨hcut, ih⟩
    · rw [hs] at ih
      have hlast : last ⟨i, c.instructions⟩ = c.last := List.getLast_cons _
      refine ih.imp_head fun {d} hcut => ?_
      rwa [hlast]

/-! ## Blocks lie side by side -/

/-- Instructions that lead from one offset to another do so block by block. -/
theorem tiles_of_instructions {bs : List Block} {a z : Offset}
    (h : Tiles Instruction.addr Instruction.next a (bs.flatMap instructions) z) :
    Tiles start stop a bs z := by
  induction bs generalizing a with
  | nil => exact h
  | cons b bs ih =>
    rw [List.flatMap_cons, tiles_append] at h
    obtain ⟨m, hb, hbs⟩ := h
    have hstart : b.start = a := hb.1
    have hstop : b.stop = m := hb.stop_getLast b.getLast?_instructions
    refine ⟨hstart, ?_, hstop ▸ ih hbs⟩
    obtain ⟨hle, hlt, -⟩ := hb.bounds b.last_mem
    simp only [hstart, stop, Offset.lt_def, Offset.le_def] at hle hlt ⊢
    omega

theorem tiles_of_mem {bs : List Block} {b : Block} {a z : Offset}
    (h : Tiles Instruction.addr Instruction.next a (bs.flatMap instructions) z) (hb : b ∈ bs) :
    Tiles Instruction.addr Instruction.next b.start b.instructions b.stop := by
  obtain ⟨xs, ys, rfl⟩ := List.append_of_mem hb
  simp only [List.flatMap_append, List.flatMap_cons, tiles_append] at h
  obtain ⟨m, -, n, hbm, -⟩ := h
  obtain rfl : b.start = m := hbm.1
  obtain rfl : b.stop = n := hbm.stop_getLast b.getLast?_instructions
  exact hbm

end Block

namespace Code

variable {code : Code} {b c : Block} {i j : Instruction} {a : Offset}

/-- **The blocks of a body** lead from its entry to its end. -/
theorem tiles_blocks (code : Code) :
    Tiles Block.start Block.stop .entry code.blocks code.stop := by
  apply Block.tiles_of_instructions
  rw [flatMap_blocks]
  exact code.tiles_instructions

theorem tiles_of_mem_blocks (hb : b ∈ code.blocks) :
    Tiles Instruction.addr Instruction.next b.start b.instructions b.stop := by
  have h := code.tiles_instructions
  rw [← flatMap_blocks code] at h
  exact Block.tiles_of_mem h hb

theorem mem_instructions_of_mem_blocks (hb : b ∈ code.blocks) (hi : i ∈ b.instructions) :
    i ∈ code.instructions := by
  rw [← flatMap_blocks code]
  exact List.mem_flatMap.mpr ⟨b, hb, hi⟩

theorem exists_mem_blocks (hi : i ∈ code.instructions) :
    ∃ b ∈ code.blocks, i ∈ b.instructions := by
  rw [← flatMap_blocks code] at hi
  exact List.mem_flatMap.mp hi

/-- A block contains the offsets of its instructions. -/
theorem contains_addr (hb : b ∈ code.blocks) (hi : i ∈ b.instructions) :
    b.contains i.addr = true := by
  obtain ⟨hle, hlt, hstop⟩ := (tiles_of_mem_blocks hb).bounds hi
  rw [Block.contains_iff]
  simp only [Offset.lt_def, Offset.le_def] at hle hlt hstop ⊢
  omega

/-- No offset lies in two blocks. -/
theorem eq_of_contains (hb : b ∈ code.blocks) (hc : c ∈ code.blocks)
    (hba : b.contains a = true) (hca : c.contains a = true) : b = c :=
  code.tiles_blocks.eq_of_covering hb hc (Block.contains_iff.mp hba) (Block.contains_iff.mp hca)

theorem contains_start (hb : b ∈ code.blocks) : b.contains b.start = true :=
  contains_addr hb b.head_mem

/-- The instruction at the start of a block is its first one. -/
theorem head_eq_of_addr_eq_start (hb : b ∈ code.blocks) (hi : i ∈ code.instructions)
    (h : i.addr = b.start) : b.head = i :=
  code.tiles_instructions.eq_of_start_eq (mem_instructions_of_mem_blocks hb b.head_mem) hi h.symm

/-! ## Looking blocks up -/

theorem find?_blocks_eq_some_iff :
    Block.find? code.blocks a = some b ↔ b ∈ code.blocks ∧ b.contains a = true := by
  rw [Block.find?, Option.filter_eq_some_iff]
  constructor
  · rintro ⟨h, hba⟩
    exact ⟨List.mem_reverse.mp (List.mem_of_find?_eq_some h), hba⟩
  · rintro ⟨hb, hba⟩
    exact ⟨code.tiles_blocks.find?_reverse_eq_some hb (Block.contains_iff.mp hba), hba⟩

theorem find?_blocks_eq_none_iff : Block.find? code.blocks a = none ↔ code.stop ≤ a := by
  simp only [Option.eq_none_iff_forall_ne_some, ne_eq, find?_blocks_eq_some_iff, not_and]
  constructor
  · intro h
    by_contra hlt
    obtain ⟨b, hb, hba⟩ :=
      code.tiles_blocks.exists_covering (o := a) (Nat.zero_le _) (Nat.not_le.mp hlt)
    exact h b hb (Block.contains_iff.mpr hba)
  · intro hle b hb hba
    have hlt := (Block.contains_iff.mp hba).2
    have hstop := (code.tiles_blocks.bounds hb).2.2
    simp only [Offset.lt_def, Offset.le_def] at hle hlt hstop
    omega

theorem startingAt?_blocks_eq_some_iff :
    Block.startingAt? code.blocks a = some b ↔ b ∈ code.blocks ∧ b.start = a := by
  constructor
  · intro h
    exact ⟨List.mem_of_find?_eq_some h, by simpa using List.find?_some h⟩
  · rintro ⟨hb, rfl⟩
    cases h : Block.startingAt? code.blocks b.start with
    | none => simpa using List.find?_eq_none.mp h b hb
    | some c =>
      have hc : c.start = b.start := by simpa using List.find?_some h
      rw [code.tiles_blocks.eq_of_start_eq (List.mem_of_find?_eq_some h) hb hc]

/-! ## Where blocks start -/

theorem mem_leaders {code : Code} {a : Offset} :
    a ∈ code.leaders ↔
      (∃ i ∈ code.instructions, a ∈ i.operation.targets) ∨
        (∃ t ∈ code.tries, t.start = a) ∨ ∃ t ∈ code.tries, ∃ c ∈ t.clauses, c.handler = a := by
  simp only [leaders, List.mem_append, List.mem_flatMap, List.mem_cons, List.mem_map, eq_comm,
    and_or_left, exists_or]

/-- Neighbours inside a block are not to be separated. -/
theorem cutsBetween_eq_false_of_follows (hb : b ∈ code.blocks) (h : Follows b.instructions i j) :
    cutsBetween code.leaders i j = false := by
  have hchain := Block.isChain_instructions_of_mem_split hb
  exact (h.rel hchain :)

/-- An instruction after another one starts a block exactly if the two are to be separated. -/
theorem exists_head_iff (h : Follows code.instructions i j) :
    (∃ b ∈ code.blocks, b.head = j) ↔ cutsBetween code.leaders i j = true := by
  have hnext : i.next = j.addr := (code.tiles_instructions.follows_iff.mp h).2.2
  rw [← flatMap_blocks code] at h
  rcases Block.follows_flatMap_instructions.mp h with ⟨b, hb, hin⟩ | ⟨b, c, hbc, rfl, rfl⟩
  · rw [cutsBetween_eq_false_of_follows hb hin]
    refine iff_of_false ?_ Bool.false_ne_true
    rintro ⟨c, hc, rfl⟩
    obtain rfl := eq_of_contains hb hc (contains_addr hb hin.right_mem) (contains_start hc)
    obtain ⟨hle, hlt, -⟩ := (tiles_of_mem_blocks hb).bounds hin.left_mem
    rw [hnext] at hlt
    exact absurd hlt (Nat.not_lt.mpr hle)
  · have hchain := Block.isChain_split (cutsBetween code.leaders) code.instructions
    have hcut := hbc.rel hchain
    exact iff_of_true ⟨c, hbc.right_mem, rfl⟩ hcut

theorem cutsBetween_leaders_iff :
    cutsBetween code.leaders i j = true ↔
      i.operation.isBranch = true ∨ (∃ x ∈ code.instructions, j.addr ∈ x.operation.targets) ∨
        (∃ t ∈ code.tries, t.start = j.addr) ∨
          ∃ t ∈ code.tries, ∃ c ∈ t.clauses, c.handler = j.addr := by
  rw [cutsBetween, Bool.or_eq_true, List.contains_iff_mem, mem_leaders]

end Code

/-- **The blocks of a method with a body.** They hold its instructions in order, none of them is
empty, and their ranges lead from offset zero to the end of the body. An instruction other than the
first one starts a block exactly if it comes after a branch, or lies at a jump target, at the start
of a protected range, or at a handler. -/
theorem BlockGraph.partition_ofMethod (name descriptor : String) (code : Code) :
    ∃ g, BlockGraph.ofMethod ⟨name, descriptor, some code⟩ = .ok g ∧
      g.blocks.flatMap Block.instructions = code.instructions ∧
      (∀ b ∈ g.blocks, b.instructions ≠ []) ∧
      Tiles Block.start Block.stop .entry g.blocks code.stop ∧
      ∀ k i j, code.instructions[k]? = some i → code.instructions[k + 1]? = some j →
        ((∃ b ∈ g.blocks, b.head = j) ↔
          i.operation.isBranch = true ∨ (∃ x ∈ code.instructions, j.addr ∈ x.operation.targets) ∨
            (∃ t ∈ code.tries, t.start = j.addr) ∨
              ∃ t ∈ code.tries, ∃ c ∈ t.clauses, c.handler = j.addr) := by
  refine ⟨BlockGraph.ofCode code, rfl, code.flatMap_blocks, fun b _ => List.cons_ne_nil _ _,
    code.tiles_blocks, fun k i j hi hj => ?_⟩
  rw [← Code.cutsBetween_leaders_iff]
  exact Code.exists_head_iff (follows_iff_getElem?.mpr ⟨k, hi, hj⟩)

end CallAtlas
