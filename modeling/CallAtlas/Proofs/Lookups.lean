import CallAtlas.Proofs.ControlFlow

/-!
# Looking up the block at an offset

The block at an offset is searched among those that start at or before it: the last of them is
taken, and then its end is checked. Because the blocks of a body lie side by side from its entry to
its end, this finds a block for every offset of the body, whether an instruction stands there or
not, and never misses one that an earlier candidate would have given. Handlers are tied to blocks by
the same search, so a handler has a block as soon as it lies in the body. It is a leader besides, so
if an instruction stands at its offset, the block starts there.

## Main results

* `Code.filter_contains_blocks`: the block found is the only one that contains the offset
* `Code.exists_start_of_mem_leaders`: a block starts at an instruction that is a leader
* `BlockGraph.lookups_ofMethod`: the blocks and handlers that lookups find
-/

namespace CallAtlas

namespace Code

variable {code : Code} {b : Block} {i : Instruction} {a : Offset}

/-! ## Blocks by offset -/

theorem isSome_find?_blocks_iff : (Block.find? code.blocks a).isSome = true ↔ a < code.stop := by
  rw [← Option.ne_none_iff_isSome, ne_eq, find?_blocks_eq_none_iff]
  exact Nat.not_le

theorem nodup_blocks (code : Code) : code.blocks.Nodup := by
  refine code.tiles_blocks.pairwise_start_ne.imp ?_
  intro b c hne heq
  exact hne (congrArg Block.start heq)

/-- The block found at an offset is the only one that contains it. -/
theorem filter_contains_blocks (h : Block.find? code.blocks a = some b) :
    code.blocks.filter (·.contains a) = [b] := by
  obtain ⟨hb, hba⟩ := find?_blocks_eq_some_iff.mp h
  apply List.perm_singleton.mp
  have hone : [b].Nodup := List.pairwise_singleton _ b
  refine (List.perm_ext_iff_of_nodup (code.nodup_blocks.filter _) hone).mpr ?_
  intro c
  rw [List.mem_filter, List.mem_singleton]
  constructor
  · rintro ⟨hc, hca⟩
    exact eq_of_contains hc hb hca hba
  · rintro rfl
    exact ⟨hb, hba⟩

theorem isSome_startingAt?_blocks_iff :
    (Block.startingAt? code.blocks a).isSome = true ↔ ∃ b ∈ code.blocks, b.start = a := by
  simp only [Option.isSome_iff_exists, startingAt?_blocks_eq_some_iff]

/-- The block that starts at an offset is the one that contains it. -/
theorem find?_blocks_of_startingAt? (h : Block.startingAt? code.blocks a = some b) :
    Block.find? code.blocks a = some b := by
  obtain ⟨hb, rfl⟩ := startingAt?_blocks_eq_some_iff.mp h
  exact find?_blocks_eq_some_iff.mpr ⟨hb, contains_start hb⟩

/-! ## The blocks of handlers -/

/-- A block starts at an instruction that is a leader. -/
theorem exists_start_of_mem_leaders (hi : i ∈ code.instructions) (hlead : i.addr ∈ code.leaders) :
    ∃ b ∈ code.blocks, b.start = i.addr := by
  obtain ⟨b, hb, hib⟩ := exists_mem_blocks hi
  have hhead : b.head = i := head_eq_of_mem_leaders hb hib hlead
  exact ⟨b, hb, congrArg Instruction.addr hhead⟩

/-- A handler at an instruction starts its block. -/
theorem map_start_find?_blocks_of_handler {t : TryRange} {c : CatchClause} (ht : t ∈ code.tries)
    (hc : c ∈ t.clauses) (hi : i ∈ code.instructions) (haddr : i.addr = c.handler) :
    (Block.find? code.blocks c.handler).map Block.start = some c.handler := by
  have hlead : i.addr ∈ code.leaders :=
    mem_leaders.mpr (.inr (.inr ⟨t, ht, c, hc, haddr.symm⟩))
  obtain ⟨b, hb, hstart⟩ := exists_start_of_mem_leaders hi hlead
  rw [← haddr, ← hstart, find?_blocks_eq_some_iff.mpr ⟨hb, contains_start hb⟩]
  rfl

end Code

/-- **Lookups in the graph of a body.** A block is found at an offset exactly if the offset lies
before the end of the body, and it is the only block whose range contains the offset. A block is
found that starts at an offset exactly if there is one, and it is the block at that offset. Regions
and handlers are those of the protected ranges, in order, and a handler carries the start of the
block at its offset. It has no block exactly if it lies at the end of the body or beyond; where an
instruction stands at a handler, its block starts there. -/
theorem BlockGraph.lookups_ofMethod (name descriptor : String) (code : Code) :
    ∃ g, BlockGraph.ofMethod ⟨name, descriptor, some code⟩ = .ok g ∧
      (∀ a, ((g.blockAt? a).isSome = true ↔ a < code.stop) ∧
        ∀ b, g.blockAt? a = some b →
          (b.start ≤ a ∧ a < b.stop) ∧ g.blocks.filter (·.contains a) = [b]) ∧
      (∀ a, ((g.blockStartingAt? a).isSome = true ↔ ∃ b ∈ g.blocks, b.start = a) ∧
        ∀ b, g.blockStartingAt? a = some b → b.start = a ∧ g.blockAt? a = some b) ∧
      List.Forall₂ (fun r t =>
        List.Forall₂ (fun h c => h.addr = c.handler ∧
          h.block = (g.blockAt? h.addr).map Block.start ∧
          (h.block = none ↔ code.stop ≤ h.addr) ∧
          ∀ i ∈ code.instructions, i.addr = h.addr → h.block = some h.addr)
          r.handlers t.clauses) g.regions code.tries := by
  refine ⟨BlockGraph.ofCode code, rfl, fun a => ⟨?_, ?_⟩, fun a => ⟨?_, ?_⟩, ?_⟩
  · exact Code.isSome_find?_blocks_iff
  · intro b hb
    obtain ⟨-, hba⟩ := Code.find?_blocks_eq_some_iff.mp hb
    exact ⟨Block.contains_iff.mp hba, Code.filter_contains_blocks hb⟩
  · exact Code.isSome_startingAt?_blocks_iff
  · intro b hb
    exact ⟨(Code.startingAt?_blocks_eq_some_iff.mp hb).2, Code.find?_blocks_of_startingAt? hb⟩
  · rw [ofCode, List.forall₂_map_left_iff, List.forall₂_same]
    intro t ht
    rw [Region.ofTry, List.forall₂_map_left_iff, List.forall₂_same]
    intro c hc
    refine ⟨rfl, rfl, ?_, ?_⟩
    · exact Option.map_eq_none_iff.trans Code.find?_blocks_eq_none_iff
    · intro i hi haddr
      exact Code.map_start_find?_blocks_of_handler ht hc hi haddr

end CallAtlas
