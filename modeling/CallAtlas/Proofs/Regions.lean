import CallAtlas.Proofs.ControlFlow
import CallAtlas.Proofs.Layout

/-!
# The exception region of a block

A block belongs to the first protected range that matches its own range. Matching is tested by four
comparisons of the ends; for ranges that are not empty they come to this: the two have an offset in
common. A block may stick out of its region at the far end, since the end of a protected range cuts
no body. It does not stick out at the near end, since the start of a protected range that is the
offset of an instruction starts a block. So where all starts are such offsets, or lie beyond the
body, the region of a block is the first one that holds the start of the block.

## Main definitions

* `FirstAt`: where the first element of a list with a property stands
* `TryRange.Holds`, `TryRange.Touches`, `TryRange.Apart`: the offsets of a protected range
* `Region.Renders`: a region has the range and the handlers of a protected range
* `Code.StartsAligned`: protected ranges start at instructions, or beyond the body

## Main results

* `Region.overlaps_iff`: matching ranges are ranges with a common offset
* `Code.regionOf?_eq_some_iff`, `Code.regionOf?_eq_none_iff`: the region of a block
* `Code.StartsAligned.touches_iff_holds`: a protected range meets a block at its start
* `BlockGraph.regions_ofCode`: the regions of a body and of its blocks
-/

namespace CallAtlas

/-! ## The first element with a property -/

section FirstAt

variable {α : Type} {P Q : α → Prop} {xs : List α} {x : α} {k : Nat}

/-- The first element of a list that satisfies `P` stands at index `k`. -/
def FirstAt (P : α → Prop) (xs : List α) (k : Nat) : Prop :=
  (∃ x, xs[k]? = some x ∧ P x) ∧ ∀ j < k, ∀ y, xs[j]? = some y → ¬ P y

theorem findIdx?_eq_some_iff_firstAt {p : α → Bool} :
    xs.findIdx? p = some k ↔ FirstAt (p · = true) xs k := by
  rw [List.findIdx?_eq_some_iff_getElem]
  constructor
  · rintro ⟨hk, hx, hbefore⟩
    refine ⟨⟨xs[k], List.getElem?_eq_getElem hk, hx⟩, ?_⟩
    intro j hj y hy
    obtain ⟨_, rfl⟩ := List.getElem?_eq_some_iff.mp hy
    exact hbefore j hj
  · rintro ⟨⟨x, hx, hpx⟩, hbefore⟩
    obtain ⟨hk, rfl⟩ := List.getElem?_eq_some_iff.mp hx
    refine ⟨hk, hpx, ?_⟩
    intro j hj
    exact hbefore j hj xs[j] (List.getElem?_eq_getElem _)

/-- Properties that agree on a list have their first element at the same place. -/
theorem firstAt_congr (h : ∀ x ∈ xs, (P x ↔ Q x)) : FirstAt P xs k ↔ FirstAt Q xs k := by
  have hat : ∀ (j : Nat) (y : α), xs[j]? = some y → (P y ↔ Q y) := by
    intro j y hy
    exact h y (List.mem_of_getElem? hy)
  constructor
  · rintro ⟨⟨x, hx, hP⟩, hbefore⟩
    refine ⟨⟨x, hx, (hat k x hx).mp hP⟩, ?_⟩
    intro j hj y hy hQ
    exact hbefore j hj y hy ((hat j y hy).mpr hQ)
  · rintro ⟨⟨x, hx, hQ⟩, hbefore⟩
    refine ⟨⟨x, hx, (hat k x hx).mpr hQ⟩, ?_⟩
    intro j hj y hy hP
    exact hbefore j hj y hy ((hat j y hy).mp hP)

/-- Where no two elements have the property, one that has it is the first. -/
theorem exists_firstAt_of_pairwise (hxs : xs.Pairwise fun x y => ¬ (P x ∧ P y)) (hx : x ∈ xs)
    (hP : P x) : ∃ k, xs[k]? = some x ∧ FirstAt P xs k := by
  obtain ⟨k, hk, rfl⟩ := List.getElem_of_mem hx
  refine ⟨k, List.getElem?_eq_getElem hk, ⟨_, List.getElem?_eq_getElem hk, hP⟩, ?_⟩
  intro j hj y hy hPy
  obtain ⟨hjlen, rfl⟩ := List.getElem?_eq_some_iff.mp hy
  exact List.pairwise_iff_getElem.mp hxs j k hjlen hk hj ⟨hPy, hP⟩

end FirstAt

/-! ## Offsets of a protected range -/

namespace TryRange

variable {t u : TryRange} {a : Offset}

/-- An offset lies in a protected range. -/
def Holds (t : TryRange) (a : Offset) : Prop := t.start ≤ a ∧ a < t.stop

instance (t : TryRange) (a : Offset) : Decidable (t.Holds a) :=
  inferInstanceAs (Decidable (t.start ≤ a ∧ a < t.stop))

/-- A protected range and a block have an offset in common. -/
def Touches (t : TryRange) (b : Block) : Prop := ∃ a, t.Holds a ∧ b.contains a = true

/-- Two protected ranges have no offset in common. -/
def Apart (t u : TryRange) : Prop := ∀ a, ¬ (t.Holds a ∧ u.Holds a)

/-- One of the two ends before the other starts. -/
theorem apart_of_stop_le_start (h : t.stop ≤ u.start ∨ u.stop ≤ t.start) : t.Apart u := by
  rintro a ⟨⟨hta, hat⟩, hua, hau⟩
  simp only [Offset.lt_def, Offset.le_def] at h hta hat hua hau
  omega

end TryRange

namespace Region

variable {r : Region} {start stop : Offset}

/-- A region has the range of a protected range, and handlers of the same types and offsets. -/
structure Renders (r : Region) (t : TryRange) : Prop where
  start_eq : r.start = t.start
  stop_eq : r.stop = t.stop
  handlers : List.Forall₂ (fun h c => h.type = c.type ∧ h.addr = c.handler) r.handlers t.clauses

theorem renders_ofTry (blockOf : Offset → Option Offset) (t : TryRange) :
    (ofTry blockOf t).Renders t := by
  refine ⟨rfl, rfl, ?_⟩
  rw [ofTry, List.forall₂_map_left_iff, List.forall₂_same]
  intro c _
  exact ⟨rfl, rfl⟩

/-- **Matching ranges** that are not empty are ranges with a common offset. -/
theorem overlaps_iff (hr : r.start < r.stop) (h : start < stop) :
    r.overlaps start stop = true ↔ ∃ a, (r.start ≤ a ∧ a < r.stop) ∧ start ≤ a ∧ a < stop := by
  rw [overlaps, decide_eq_true_eq]
  simp only [Offset.lt_def, Offset.le_def] at hr h ⊢
  constructor
  · intro hmatch
    rcases Nat.le_total r.start.toNat start.toNat with hle | hle
    · exact ⟨start, by omega⟩
    · exact ⟨r.start, by omega⟩
  · rintro ⟨a, ⟨hra, har⟩, hsa, has⟩
    omega

end Region

/-! ## The region of a block -/

namespace Code

variable {code : Code} {b : Block} {t : TryRange} {i : Instruction} {k : Nat}

/-- Every protected range starts at an instruction, or beyond the body. -/
def StartsAligned (code : Code) : Prop :=
  ∀ t ∈ code.tries, (∃ i ∈ code.instructions, i.addr = t.start) ∨ code.stop ≤ t.start

instance (code : Code) : Decidable code.StartsAligned :=
  inferInstanceAs (Decidable
    (∀ t ∈ code.tries, (∃ i ∈ code.instructions, i.addr = t.start) ∨ code.stop ≤ t.start))

/-- The region of a protected range matches a block if the two have an offset in common. -/
theorem overlaps_ofTry_iff (hb : b ∈ code.blocks) (ht : t ∈ code.tries)
    (blockOf : Offset → Option Offset) :
    (Region.ofTry blockOf t).overlaps b.start b.stop = true ↔ t.Touches b := by
  have hrange : t.start < t.stop := code.laidOut.tries t ht
  have hblock : b.start < b.stop := (code.tiles_blocks.bounds hb).2.1
  rw [Region.overlaps_iff hrange hblock, TryRange.Touches]
  simp only [Block.contains_iff]
  rfl

theorem regionOf?_eq_findIdx? (code : Code) (b : Block) :
    (BlockGraph.ofCode code).regionOf? b = code.tries.findIdx? fun t =>
      (Region.ofTry (fun a => (Block.find? code.blocks a).map (·.start)) t).overlaps b.start
        b.stop :=
  List.findIdx?_map

/-- **The region of a block** is the first protected range that has an offset in common with it. -/
theorem regionOf?_eq_some_iff (hb : b ∈ code.blocks) :
    (BlockGraph.ofCode code).regionOf? b = some k ↔ FirstAt (·.Touches b) code.tries k := by
  rw [regionOf?_eq_findIdx?, findIdx?_eq_some_iff_firstAt]
  exact firstAt_congr fun t ht => overlaps_ofTry_iff hb ht _

theorem regionOf?_eq_none_iff (hb : b ∈ code.blocks) :
    (BlockGraph.ofCode code).regionOf? b = none ↔ ∀ t ∈ code.tries, ¬ t.Touches b := by
  rw [regionOf?_eq_findIdx?, List.findIdx?_eq_none_iff]
  refine forall₂_congr fun t ht => ?_
  rw [← overlaps_ofTry_iff hb ht, Bool.not_eq_true]

/-- No protected range starts inside a block, unless where the block does. -/
theorem StartsAligned.start_le (h : code.StartsAligned) (hb : b ∈ code.blocks)
    (ht : t ∈ code.tries) (hlt : t.start < b.stop) : t.start ≤ b.start := by
  rcases h t ht with ⟨i, hi, haddr⟩ | hbeyond
  · obtain ⟨c, hc, hic⟩ := exists_mem_blocks hi
    have hlead : i.addr ∈ code.leaders := mem_leaders.mpr (.inr (.inl ⟨t, ht, haddr.symm⟩))
    obtain rfl := head_eq_of_mem_leaders hc hic hlead
    by_contra hle
    have hinside : b.contains t.start = true :=
      Block.contains_iff.mpr ⟨Nat.le_of_lt (Nat.lt_of_not_le hle), hlt⟩
    have hstart : c.contains t.start = true := haddr ▸ contains_start hc
    obtain rfl := eq_of_contains hb hc hinside hstart
    exact hle (haddr ▸ Nat.le_refl _)
  · have hstop := (code.tiles_blocks.bounds hb).2.2
    simp only [Offset.lt_def, Offset.le_def] at hbeyond hstop hlt
    omega

/-- A protected range that has an offset in common with a block holds the start of the block. -/
theorem StartsAligned.touches_iff_holds (h : code.StartsAligned) (hb : b ∈ code.blocks)
    (ht : t ∈ code.tries) : t.Touches b ↔ t.Holds b.start := by
  constructor
  · rintro ⟨a, ⟨hta, hat⟩, hba⟩
    obtain ⟨hsa, has⟩ := Block.contains_iff.mp hba
    have hle := h.start_le hb ht (Nat.lt_of_le_of_lt hta has)
    exact ⟨hle, Nat.lt_of_le_of_lt hsa hat⟩
  · intro hholds
    exact ⟨b.start, hholds, contains_start hb⟩

theorem StartsAligned.regionOf?_eq_some_iff (h : code.StartsAligned) (hb : b ∈ code.blocks) :
    (BlockGraph.ofCode code).regionOf? b = some k ↔ FirstAt (·.Holds b.start) code.tries k := by
  rw [Code.regionOf?_eq_some_iff hb]
  exact firstAt_congr fun t ht => h.touches_iff_holds hb ht

/-- Where protected ranges lie apart, an instruction of one of them finds it. -/
theorem StartsAligned.exists_regionAt? (h : code.StartsAligned)
    (hapart : code.tries.Pairwise TryRange.Apart) (hi : i ∈ code.instructions)
    (ht : t ∈ code.tries) (hit : t.Holds i.addr) :
    ∃ k, code.tries[k]? = some t ∧ (BlockGraph.ofCode code).regionAt? i.addr = some k := by
  obtain ⟨b, hb, hib⟩ := exists_mem_blocks hi
  have hcontains := contains_addr hb hib
  have hstart : t.Holds b.start := (h.touches_iff_holds hb ht).mp ⟨i.addr, hit, hcontains⟩
  have hone : code.tries.Pairwise fun t u => ¬ (t.Holds b.start ∧ u.Holds b.start) :=
    hapart.imp fun htu => htu b.start
  obtain ⟨k, hk, hfirst⟩ := exists_firstAt_of_pairwise hone ht hstart
  refine ⟨k, hk, ?_⟩
  rw [BlockGraph.regionAt?, blockAt?_ofCode hb hcontains]
  exact (h.regionOf?_eq_some_iff hb).mpr hfirst

end Code

/-- **The regions of a body and of its blocks.** There is one region for each protected range, in
order. The region of a block is the first one that has an offset in common with the block, and there
is none exactly if no region has. If all protected ranges start at an instruction or beyond the
body, it is the first one that holds the start of the block; if they lie apart besides, an
instruction in a protected range finds that range. -/
theorem BlockGraph.regions_ofCode (code : Code) :
    List.Forall₂ Region.Renders (ofCode code).regions code.tries ∧
      (∀ b ∈ (ofCode code).blocks,
        (∀ k, (ofCode code).regionOf? b = some k ↔ FirstAt (·.Touches b) code.tries k) ∧
          ((ofCode code).regionOf? b = none ↔ ∀ t ∈ code.tries, ¬ t.Touches b)) ∧
      (code.StartsAligned →
        (∀ b ∈ (ofCode code).blocks, ∀ k,
          (ofCode code).regionOf? b = some k ↔ FirstAt (·.Holds b.start) code.tries k) ∧
        (code.tries.Pairwise TryRange.Apart →
          ∀ i ∈ code.instructions, ∀ t ∈ code.tries, t.Holds i.addr →
            ∃ k, code.tries[k]? = some t ∧ (ofCode code).regionAt? i.addr = some k)) := by
  refine ⟨?_, fun b hb => ⟨fun k => ?_, ?_⟩, fun haligned => ⟨fun b hb k => ?_, ?_⟩⟩
  · rw [ofCode, List.forall₂_map_left_iff, List.forall₂_same]
    intro t _
    exact Region.renders_ofTry _ t
  · exact Code.regionOf?_eq_some_iff hb
  · exact Code.regionOf?_eq_none_iff hb
  · exact haligned.regionOf?_eq_some_iff hb
  · intro hapart i hi t ht hit
    exact haligned.exists_regionAt? hapart hi ht hit

/-- A body with three protected ranges: one ends before the last instruction of a block, one in the
middle of an instruction, and one lies beyond the body. -/
def Code.guarded : Code where
  instructions := [.plain .entry 2 .other, .plain ⟨2⟩ 2 (.branch ⟨8⟩), .plain ⟨4⟩ 4 .other,
    .plain ⟨8⟩ 2 .other, .plain ⟨10⟩ 2 .return]
  tries := [⟨⟨8⟩, ⟨10⟩, [⟨none, ⟨4⟩⟩]⟩, ⟨⟨2⟩, ⟨7⟩, [⟨some "E", ⟨8⟩⟩]⟩, ⟨⟨12⟩, ⟨20⟩, []⟩]
  sound := by decide

/-- The instruction at offset 4 finds its range, the second of the list. The last instruction, which
no range holds, still has the region of its block. -/
theorem BlockGraph.regions_ofCode_guarded :
    Code.guarded.StartsAligned ∧ Code.guarded.tries.Pairwise TryRange.Apart ∧
      (∃ k, Code.guarded.tries[k]? = some ⟨⟨2⟩, ⟨7⟩, [⟨some "E", ⟨8⟩⟩]⟩ ∧
        (ofCode Code.guarded).regionAt? ⟨4⟩ = some k) ∧
      (ofCode Code.guarded).regionAt? ⟨10⟩ = some 0 := by
  have haligned : Code.guarded.StartsAligned := by decide
  have hends : Code.guarded.tries.Pairwise fun t u => t.stop ≤ u.start ∨ u.stop ≤ t.start := by
    decide
  have hapart : Code.guarded.tries.Pairwise TryRange.Apart :=
    hends.imp TryRange.apart_of_stop_le_start
  exact ⟨haligned, hapart,
    ((regions_ofCode Code.guarded).2.2 haligned).2 hapart (.plain ⟨4⟩ 4 .other) (by decide) _
      (by decide) (by decide), by decide⟩

end CallAtlas
