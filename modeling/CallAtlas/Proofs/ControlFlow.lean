import CallAtlas.Proofs.Partition

/-!
# Control flow between blocks

Control passes from an instruction to the targets of its jumps, and to the next instruction if it
falls through. The block graph of a body renders exactly these steps: a step stays inside a block,
or it leaves the last instruction of a block along an edge to the first instruction of another one.

## Main definitions

* `Code.Steps`: control can pass from one instruction to another
* `Block.JumpsAlong`, `Block.FallsAlong`: the edges that leave a block

## Main results

* `Code.steps_iff`: steps of control are steps inside blocks and edges between them
* `Code.successors_eq`: the successors of a block are its own edges
* `BlockGraph.controlFlow_ofCode`: the block graph of a body
-/

namespace CallAtlas

/-- An operation that is no branch lets control pass to the next instruction. -/
theorem Operation.fallsThrough_of_not_isBranch {op : Operation} (h : op.isBranch = false) :
    op.fallsThrough = true := by
  cases op <;> simp_all [isBranch, fallsThrough]

theorem Operation.isBranch_of_mem_targets {op : Operation} {t : Offset} (h : t ∈ op.targets) :
    op.isBranch = true := by
  by_contra hb
  rw [targets_eq_nil_of_not_isBranch (Bool.eq_false_iff.mpr hb)] at h
  cases h

/-- Control can pass from one instruction to another: it jumps there, or it falls through to the
next instruction. -/
def Code.Steps (code : Code) (i j : Instruction) : Prop :=
  j.addr ∈ i.operation.targets ∨
    (i.operation.fallsThrough = true ∧ Follows code.instructions i j)

namespace Block

/-- The edge along which the last instruction of a block jumps to `t`. -/
def JumpsAlong (code : Code) (b : Block) (t : Offset) (e : BlockEdge) : Prop :=
  e.source = b.start ∧ e.site = b.last.addr ∧ e.target = t ∧
    ∃ d ∈ code.blocks, d.contains t = true ∧ e.dest = d.start

/-- The edges along which a block falls through: one to the next instruction, if there is one and
the last instruction lets control pass to it. -/
def FallsAlong (code : Code) (b : Block) (es : List BlockEdge) : Prop :=
  (∃ d ∈ code.blocks, b.last.operation.fallsThrough = true ∧
      Follows code.instructions b.last d.head ∧
      es = [⟨b.start, d.start, b.last.addr, d.head.addr⟩]) ∨
    (¬ (b.last.operation.fallsThrough = true ∧ ∃ j, Follows code.instructions b.last j) ∧ es = [])

theorem mem_edges {blocks : List Block} {b : Block} {e : BlockEdge} :
    e ∈ edges blocks b ↔
      (∃ t ∈ b.last.operation.targets, ∃ d, find? blocks t = some d ∧
          ⟨b.start, d.start, b.last.addr, t⟩ = e) ∨
        (b.last.operation.fallsThrough = true ∧ ∃ d, startingAt? blocks b.stop = some d ∧
          ⟨b.start, d.start, b.last.addr, b.stop⟩ = e) := by
  rw [edges, List.mem_append, List.mem_filterMap]
  refine or_congr ?_ ?_
  · simp only [Option.map_eq_some_iff]
  · cases b.last.operation.fallsThrough <;> simp [Option.map_eq_some_iff]

theorem source_of_mem_edges {blocks : List Block} {b : Block} {e : BlockEdge}
    (h : e ∈ edges blocks b) : e.source = b.start := by
  rcases mem_edges.mp h with ⟨t, -, d, -, rfl⟩ | ⟨-, d, -, rfl⟩ <;> rfl

theorem filter_source_edges_of_ne {blocks : List Block} {b : Block} {a : Offset}
    (h : b.start ≠ a) : (edges blocks b).filter (·.source = a) = [] := by
  refine List.filter_eq_nil_iff.mpr fun e he => ?_
  rw [source_of_mem_edges he, decide_eq_true_eq]
  exact h

/-- Among the edges of blocks with different starts, those from one start are those of its block. -/
theorem filter_source_flatMap_edges {blocks bs : List Block} {b : Block}
    (hbs : bs.Pairwise fun b c => b.start ≠ c.start) (hb : b ∈ bs) :
    (bs.flatMap (edges blocks)).filter (·.source = b.start) = edges blocks b := by
  induction bs with
  | nil => cases hb
  | cons c bs ih =>
    obtain ⟨hc, hbs⟩ := List.pairwise_cons.mp hbs
    rw [List.flatMap_cons, List.filter_append]
    rcases List.mem_cons.mp hb with rfl | hb
    · have hown : (edges blocks b).filter (·.source = b.start) = edges blocks b :=
        List.filter_eq_self.mpr fun e he => decide_eq_true (source_of_mem_edges he)
      have hrest : (bs.flatMap (edges blocks)).filter (·.source = b.start) = [] := by
        rw [List.filter_flatMap, List.flatMap_eq_nil_iff]
        exact fun d hd => filter_source_edges_of_ne (hc d hd).symm
      rw [hown, hrest, List.append_nil]
    · rw [filter_source_edges_of_ne (hc b hb), ih hbs hb, List.nil_append]

end Block

namespace Code

variable {code : Code} {b d : Block} {i j : Instruction} {a : Offset} {e : BlockEdge}

/-! ## Steps inside blocks and between them -/

/-- A branch is the last instruction of its block. -/
theorem last_eq_of_isBranch (hb : b ∈ code.blocks) (hi : i ∈ b.instructions)
    (hbranch : i.operation.isBranch = true) : b.last = i := by
  rcases getLast?_eq_some_or_exists_follows hi with hlast | ⟨j, hj⟩
  · exact Option.some.inj (b.getLast?_instructions.symm.trans hlast)
  · have hcut := cutsBetween_eq_false_of_follows hb hj
    simp [cutsBetween, hbranch] at hcut

/-- The instruction at a leader is the first one of its block. -/
theorem head_eq_of_mem_leaders (hb : b ∈ code.blocks) (hj : j ∈ b.instructions)
    (hlead : j.addr ∈ code.leaders) : b.head = j := by
  rcases head?_eq_some_or_exists_follows hj with hhead | ⟨i, hi⟩
  · exact Option.some.inj hhead
  · have hcut := cutsBetween_eq_false_of_follows hb hi
    simp [cutsBetween, hlead] at hcut

/-- Control passes from an instruction to the one after it in its block. -/
theorem steps_of_follows (hb : b ∈ code.blocks) (h : Follows b.instructions i j) :
    code.Steps i j := by
  have hcut := cutsBetween_eq_false_of_follows hb h
  have hbranch : i.operation.isBranch = false := (Bool.or_eq_false_iff.mp hcut).1
  refine .inr ⟨Operation.fallsThrough_of_not_isBranch hbranch, ?_⟩
  rw [← flatMap_blocks code]
  exact Block.follows_flatMap_instructions.mpr (.inl ⟨b, hb, h⟩)

/-- What follows the last instruction of a block is the first one of another block. -/
theorem exists_head_of_follows_last (hb : b ∈ code.blocks)
    (h : Follows code.instructions b.last j) : ∃ d ∈ code.blocks, d.head = j ∧ d.start = b.stop := by
  have hj : j ∈ code.instructions := h.right_mem
  have haddr : b.stop = j.addr := (code.tiles_instructions.follows_iff.mp h).2.2
  rcases getLast?_eq_some_or_exists_follows hb with hlast | ⟨d, hd⟩
  · have hstop := code.tiles_blocks.stop_getLast hlast
    obtain ⟨-, hlt, hle⟩ := code.tiles_instructions.bounds hj
    simp only [← haddr, hstop, Offset.lt_def, Offset.le_def] at hlt hle
    omega
  · have hstart : b.stop = d.start := (code.tiles_blocks.follows_iff.mp hd).2.2
    refine ⟨d, hd.right_mem, head_eq_of_addr_eq_start hd.right_mem hj ?_, hstart.symm⟩
    rw [← haddr, hstart]

/-- A block that begins where another one ends holds the next instruction. -/
theorem follows_last_head (hb : b ∈ code.blocks) (hd : d ∈ code.blocks) (h : d.start = b.stop) :
    Follows code.instructions b.last d.head :=
  code.tiles_instructions.follows_iff.mpr
    ⟨mem_instructions_of_mem_blocks hb b.last_mem, mem_instructions_of_mem_blocks hd d.head_mem,
      h.symm⟩

theorem mem_edges_ofCode :
    e ∈ (BlockGraph.ofCode code).edges ↔ ∃ b ∈ code.blocks, e ∈ Block.edges code.blocks b :=
  List.mem_flatMap

/-- Edges from a block are those of its last instruction. -/
theorem mem_edges_of_start (hb : b ∈ code.blocks) (he : e ∈ (BlockGraph.ofCode code).edges)
    (hsource : e.source = b.start) : e ∈ Block.edges code.blocks b := by
  obtain ⟨c, hc, hec⟩ := mem_edges_ofCode.mp he
  have hstart : c.start = b.start := (Block.source_of_mem_edges hec).symm.trans hsource
  rwa [← code.tiles_blocks.eq_of_start_eq hc hb hstart]

/-- **Steps of control** are steps from an instruction to the next one inside a block, and edges
from the last instruction of a block to the first one of another. -/
theorem steps_iff (hi : i ∈ code.instructions) (hj : j ∈ code.instructions) :
    code.Steps i j ↔
      (∃ b ∈ code.blocks, Follows b.instructions i j) ∨
        ∃ b ∈ code.blocks, ∃ d ∈ code.blocks, b.last = i ∧ d.head = j ∧
          ⟨b.start, d.start, i.addr, j.addr⟩ ∈ (BlockGraph.ofCode code).edges := by
  constructor
  · rintro (hjump | ⟨hfall, hfollows⟩)
    · obtain ⟨b, hb, hib⟩ := exists_mem_blocks hi
      obtain ⟨d, hd, hjd⟩ := exists_mem_blocks hj
      obtain rfl := last_eq_of_isBranch hb hib (Operation.isBranch_of_mem_targets hjump)
      obtain rfl := head_eq_of_mem_leaders hd hjd (mem_leaders.mpr (.inl ⟨_, hi, hjump⟩))
      refine .inr ⟨b, hb, d, hd, rfl, rfl, mem_edges_ofCode.mpr ⟨b, hb, Block.mem_edges.mpr ?_⟩⟩
      exact .inl ⟨d.head.addr, hjump, d, find?_blocks_eq_some_iff.mpr ⟨hd, contains_start hd⟩, rfl⟩
    · rw [← flatMap_blocks code] at hfollows
      rcases Block.follows_flatMap_instructions.mp hfollows with hin | ⟨b, d, hbd, rfl, rfl⟩
      · exact .inl hin
      · have hb := hbd.left_mem
        have hd := hbd.right_mem
        have hstart : b.stop = d.start := (code.tiles_blocks.follows_iff.mp hbd).2.2
        refine .inr ⟨b, hb, d, hd, rfl, rfl, mem_edges_ofCode.mpr ⟨b, hb, Block.mem_edges.mpr ?_⟩⟩
        refine .inr ⟨hfall, d, startingAt?_blocks_eq_some_iff.mpr ⟨hd, hstart.symm⟩, ?_⟩
        rw [hstart]
        rfl
  · rintro (⟨b, hb, hin⟩ | ⟨b, hb, d, hd, rfl, rfl, he⟩)
    · exact steps_of_follows hb hin
    · rcases Block.mem_edges.mp (mem_edges_of_start hb he rfl) with
        ⟨t, ht, c, -, hedge⟩ | ⟨hfall, c, -, hedge⟩
      · obtain rfl : t = d.head.addr := congrArg BlockEdge.target hedge
        exact .inl ht
      · have hstop : b.stop = d.start := congrArg BlockEdge.target hedge
        exact .inr ⟨hfall, follows_last_head hb hd hstop.symm⟩

/-! ## The edges at a block -/

/-- The graph at an offset of a block reads the edges of that block. -/
theorem blockAt?_ofCode (hb : b ∈ code.blocks) (ha : b.contains a = true) :
    (BlockGraph.ofCode code).blockAt? a = some b :=
  find?_blocks_eq_some_iff.mpr ⟨hb, ha⟩

/-- The successors of a block are its own edges. -/
theorem successors_eq (hb : b ∈ code.blocks) (ha : b.contains a = true) :
    (BlockGraph.ofCode code).successors a = Block.edges code.blocks b := by
  rw [BlockGraph.successors, blockAt?_ofCode hb ha]
  exact Block.filter_source_flatMap_edges code.tiles_blocks.pairwise_start_ne hb

/-- One jump edge for each target inside the body, in order. -/
theorem jumpsAlong_filterMap (ts : List Offset) :
    List.Forall₂ (b.JumpsAlong code) (ts.filter (· < code.stop))
      (ts.filterMap fun t =>
        (Block.find? code.blocks t).map fun d => ⟨b.start, d.start, b.last.addr, t⟩) := by
  induction ts with
  | nil => exact .nil
  | cons t ts ih =>
    cases hd : Block.find? code.blocks t with
    | none =>
      have hout : ¬ t < code.stop := Nat.not_lt.mpr (find?_blocks_eq_none_iff.mp hd)
      rw [List.filter_cons_of_neg (by simpa using hout)]
      simpa only [List.filterMap_cons, hd, Option.map_none] using ih
    | some d =>
      obtain ⟨hmem, hcontains⟩ := find?_blocks_eq_some_iff.mp hd
      have hin : t < code.stop := by
        by_contra hle
        rw [find?_blocks_eq_none_iff.mpr (Nat.not_lt.mp hle)] at hd
        cases hd
      rw [List.filter_cons_of_pos (by simpa using hin)]
      simp only [List.filterMap_cons, hd, Option.map_some]
      exact .cons ⟨rfl, rfl, rfl, d, hmem, hcontains, rfl⟩ ih

/-- One edge to the block that follows, if control falls through to it. -/
theorem fallsAlong_startingAt? (hb : b ∈ code.blocks) :
    b.FallsAlong code (if b.last.operation.fallsThrough then
      ((Block.startingAt? code.blocks b.stop).map fun d =>
        ⟨b.start, d.start, b.last.addr, b.stop⟩).toList else []) := by
  cases hd : Block.startingAt? code.blocks b.stop with
  | none =>
    refine .inr ⟨?_, by simp⟩
    rintro ⟨-, j, hj⟩
    obtain ⟨d, hmem, -, hstart⟩ := exists_head_of_follows_last hb hj
    rw [startingAt?_blocks_eq_some_iff.mpr ⟨hmem, hstart⟩] at hd
    cases hd
  | some d =>
    obtain ⟨hmem, hstart⟩ := startingAt?_blocks_eq_some_iff.mp hd
    cases hfall : b.last.operation.fallsThrough with
    | false => exact .inr ⟨by simp [hfall], rfl⟩
    | true =>
      refine .inl ⟨d, hmem, hfall, follows_last_head hb hmem hstart, ?_⟩
      have haddr : d.head.addr = b.stop := hstart
      rw [haddr]
      rfl

/-- Every edge leaves a block of the graph. -/
theorem exists_source_of_mem_edges (he : e ∈ (BlockGraph.ofCode code).edges) :
    ∃ b ∈ code.blocks, e.source = b.start := by
  obtain ⟨b, hb, heb⟩ := mem_edges_ofCode.mp he
  exact ⟨b, hb, Block.source_of_mem_edges heb⟩

/-- The successors of the source of an edge list it as often as the graph does. -/
theorem count_successors_source (code : Code) (e : BlockEdge) :
    ((BlockGraph.ofCode code).successors e.source).count e =
      (BlockGraph.ofCode code).edges.count e := by
  by_cases he : e ∈ (BlockGraph.ofCode code).edges
  · obtain ⟨b, hb, hsource⟩ := exists_source_of_mem_edges he
    rw [BlockGraph.successors, blockAt?_ofCode hb (hsource ▸ contains_start hb)]
    exact List.count_filter (decide_eq_true hsource)
  · rw [List.count_eq_zero_of_not_mem he, List.count_eq_zero, BlockGraph.successors]
    split
    · exact List.not_mem_nil
    · exact fun h => he (List.mem_of_mem_filter h)

/-- Predecessors mirror successors. -/
theorem count_predecessors (hd : d ∈ code.blocks) (ha : d.contains a = true) (e : BlockEdge) :
    ((BlockGraph.ofCode code).predecessors a).count e =
      if e.dest = d.start then ((BlockGraph.ofCode code).successors e.source).count e else 0 := by
  rw [BlockGraph.predecessors, blockAt?_ofCode hd ha, count_successors_source]
  by_cases hdest : e.dest = d.start
  · rw [if_pos hdest]
    exact List.count_filter (decide_eq_true hdest)
  · rw [if_neg hdest]
    refine List.count_eq_zero.mpr fun he => hdest ?_
    exact of_decide_eq_true (List.mem_filter.mp he).2

end Code

/-- **The block graph of a body simulates its control flow.** Control passes from an instruction to
another exactly if the second follows the first inside a block, or the first ends a block, the
second starts one, and there is an edge between the two with their offsets. The successors of a
block are, in order, one edge for each jump target inside the body, to the block that contains it,
then one edge to the next instruction if control falls through to it. The predecessors of a block
are the edges that lead to it, each as often as among the successors of its source. -/
theorem BlockGraph.controlFlow_ofCode (code : Code) :
    (∀ i ∈ code.instructions, ∀ j ∈ code.instructions,
      (code.Steps i j ↔
        (∃ b ∈ (ofCode code).blocks, Follows b.instructions i j) ∨
          ∃ b ∈ (ofCode code).blocks, ∃ d ∈ (ofCode code).blocks, b.last = i ∧ d.head = j ∧
            ⟨b.start, d.start, i.addr, j.addr⟩ ∈ (ofCode code).edges)) ∧
      (∀ b ∈ (ofCode code).blocks, ∀ a, b.contains a = true →
        ∃ jumps falls, (ofCode code).successors a = jumps ++ falls ∧
          List.Forall₂ (b.JumpsAlong code) (b.last.operation.targets.filter (· < code.stop)) jumps ∧
          b.FallsAlong code falls) ∧
      ∀ d ∈ (ofCode code).blocks, ∀ a, d.contains a = true → ∀ e,
        ((ofCode code).predecessors a).count e =
          if e.dest = d.start then ((ofCode code).successors e.source).count e else 0 := by
  refine ⟨fun i hi j hj => Code.steps_iff hi hj, fun b hb a ha => ?_,
    fun d hd a ha => Code.count_predecessors hd ha⟩
  rw [Code.successors_eq hb ha]
  exact ⟨_, _, rfl, Code.jumpsAlong_filterMap _, Code.fallsAlong_startingAt? hb⟩

end CallAtlas
