import CallAtlas.Program
import CallAtlas.Proofs.Partition
import CallAtlas.Proofs.SuperclassChain

/-!
# What a call resolves to

Resolving a call climbs the superclasses of its owner up to the first class that belongs to the
framework or declares the method. The methods that can be entered are those whose body holds an
instruction.

## Main definitions

* `Program.Declares`: a class declares a method
* `Program.SettlesOn`: the class at which the climb of a call stops
* `Program.HasBody`: a method has a block graph that is not empty
* `Method.returning`: a method of the example programs

## Main results

* `Program.resolve_eq_framework_iff`, `Program.resolve_eq_method_iff`: the outcome of a resolution
* `Program.graph?_eq_map_find?`, `Program.exists_body_of_graph?_eq_some`: block graphs are those of
  method bodies
* `Program.hasEntry_iff`: the methods that can be entered
-/

namespace CallAtlas

/-- A method without arguments that returns at once. -/
def Method.returning (name : String) : Method :=
  ⟨name, "()V", some ⟨[.plain .entry 2 .return], [], by decide⟩⟩

namespace Program

variable {p : Program} {callee m target : MethodRef} {x : String} {g : BlockGraph}

/-! ## The class at which a climb stops -/

/-- The class filed under a name declares a method of that name and descriptor. -/
def Declares (p : Program) (className : String) (m : MethodRef) : Prop :=
  ∃ c, p.getClass? className = some c ∧ ∃ d ∈ c.methods, d.name = m.name ∧ d.descriptor = m.descriptor

/-- The first class that the climb from the owner of a call takes and that belongs to the framework
or declares the method. -/
def SettlesOn (p : Program) (callee : MethodRef) (x : String) : Prop :=
  ∃ before after, p.hierarchy.Climbs [] callee.owner (before ++ x :: after) ∧
    (p.isFramework x = true ∨ p.Declares x callee) ∧
    ∀ y ∈ before, p.isFramework y = false ∧ ¬ p.Declares y callee

theorem findMethod?_isSome_iff :
    (p.findMethod? (m.withOwner x)).isSome = true ↔ p.Declares x m := by
  rw [findMethod?, Image.findMethod?]
  constructor
  · intro h
    obtain ⟨d, hd⟩ := Option.isSome_iff_exists.mp h
    obtain ⟨c, hc, hfind⟩ := Option.bind_eq_some_iff.mp hd
    have hmatch := List.find?_some hfind
    exact ⟨c, hc, d, List.mem_of_find?_eq_some hfind, of_decide_eq_true hmatch⟩
  · rintro ⟨c, hc, d, hd, hname⟩
    have hfound : (c.findMethod? m.name m.descriptor).isSome = true :=
      List.find?_isSome.mpr ⟨d, hd, by simpa using hname⟩
    have hclass : p.image.getClass? x = some c := hc
    simpa [hclass] using hfound

theorem resolveOn_eq_none_iff :
    p.resolveOn callee x = none ↔ p.isFramework x = false ∧ ¬ p.Declares x callee := by
  rw [← findMethod?_isSome_iff, resolveOn]
  cases p.isFramework x <;> simp

theorem resolveOn_eq_framework_iff :
    p.resolveOn callee x = some (.framework target) ↔
      p.isFramework x = true ∧ target = callee.withOwner x := by
  rw [resolveOn]
  cases p.isFramework x <;> simp [@eq_comm _ target]

theorem resolveOn_eq_method_iff :
    p.resolveOn callee x = some (.method target) ↔
      p.isFramework x = false ∧ p.Declares x callee ∧ target = callee.withOwner x := by
  rw [← findMethod?_isSome_iff, resolveOn]
  cases p.isFramework x <;> simp [@eq_comm _ target]

/-- What a class says about a call does not depend on the owner of the call. -/
theorem resolveOn_withOwner (p : Program) (callee : MethodRef) (r : String) :
    p.resolveOn (callee.withOwner r) = p.resolveOn callee := rfl

theorem resolve_eq_iff {r : Resolution} (hr : r ≠ .unresolved) :
    p.resolve callee = r ↔
      (p.hierarchy.superclassChain callee.owner).findSome? (p.resolveOn callee) = some r := by
  rw [resolve]
  cases (p.hierarchy.superclassChain callee.owner).findSome? (p.resolveOn callee) with
  | none => simp [hr.symm]
  | some r' => simp

/-- A call is resolved to the framework if its climb stops there. -/
theorem resolve_eq_framework_iff :
    p.resolve callee = .framework target ↔
      ∃ x, p.SettlesOn callee x ∧ p.isFramework x = true ∧ target = callee.withOwner x := by
  rw [resolve_eq_iff (by simp), List.findSome?_eq_some_iff]
  simp only [resolveOn_eq_framework_iff, resolveOn_eq_none_iff, ← Hierarchy.climbs_nil_iff]
  constructor
  · rintro ⟨before, x, after, hclimbs, ⟨hx, ht⟩, hbefore⟩
    exact ⟨x, ⟨before, after, hclimbs, .inl hx, hbefore⟩, hx, ht⟩
  · rintro ⟨x, ⟨before, after, hclimbs, -, hbefore⟩, hx, ht⟩
    exact ⟨before, x, after, hclimbs, ⟨hx, ht⟩, hbefore⟩

/-- A call is resolved to a method if its climb stops at a class of the application. -/
theorem resolve_eq_method_iff :
    p.resolve callee = .method target ↔
      ∃ x, p.SettlesOn callee x ∧ p.isFramework x = false ∧ target = callee.withOwner x := by
  rw [resolve_eq_iff (by simp), List.findSome?_eq_some_iff]
  simp only [resolveOn_eq_method_iff, resolveOn_eq_none_iff, ← Hierarchy.climbs_nil_iff]
  constructor
  · rintro ⟨before, x, after, hclimbs, ⟨hx, hdecl, ht⟩, hbefore⟩
    exact ⟨x, ⟨before, after, hclimbs, .inr hdecl, hbefore⟩, hx, ht⟩
  · rintro ⟨x, ⟨before, after, hclimbs, hstop, hbefore⟩, hx, ht⟩
    refine ⟨before, x, after, hclimbs, ⟨hx, hstop.resolve_left ?_, ht⟩, hbefore⟩
    simp [hx]

/-! ## Methods that can be entered -/

/-- A method has a block graph, and the graph has a block. Of two bodies of one method the later
counts. -/
def HasBody (p : Program) (m : MethodRef) : Prop :=
  ∃ g, p.graph? m = some g ∧ g.blocks ≠ []

/-- Of two bodies of one method the later has the block graph. -/
theorem graph?_eq_map_find? (p : Program) (m : MethodRef) :
    p.graph? m =
      ((p.image.bodies p.boundary).reverse.find? (·.1 = m)).map fun body => .ofCode body.2 := by
  have hfold : BlockGraph.ofBodies (p.image.bodies p.boundary) =
      (p.image.bodies p.boundary).foldl
        (fun graphs body => graphs.insert body.1 (BlockGraph.ofCode body.2)) ∅ := rfl
  rw [graph?, p.graphs_eq, hfold, getElem?_foldl_insert, Std.ExtTreeMap.getElem?_empty,
    Option.or_none]

/-- Block graphs are those of method bodies of the application. -/
theorem exists_body_of_graph?_eq_some (h : p.graph? m = some g) :
    ∃ code, (m, code) ∈ p.image.bodies p.boundary ∧ g = BlockGraph.ofCode code := by
  rw [graph?_eq_map_find?, Option.map_eq_some_iff] at h
  obtain ⟨⟨m', code⟩, hfind, rfl⟩ := h
  have hmatch := List.find?_some hfind
  obtain rfl : m' = m := of_decide_eq_true hmatch
  exact ⟨code, List.mem_reverse.mp (List.mem_of_find?_eq_some hfind), rfl⟩

/-- A method can be entered if it has a body with an instruction. -/
theorem hasEntry_iff : p.hasEntry m = true ↔ p.HasBody m := by
  rw [hasEntry, HasBody]
  cases hg : p.graph? m with
  | none => simp
  | some g =>
    obtain ⟨code, -, rfl⟩ := exists_body_of_graph?_eq_some hg
    simp only [Option.some.injEq, exists_eq_left']
    constructor
    · intro h
      obtain ⟨b, hb⟩ := Option.isSome_iff_exists.mp h
      exact List.ne_nil_of_mem (Code.startingAt?_blocks_eq_some_iff.mp hb).1
    · -- the blocks lead from the entry on, so the first one starts there
      intro hne
      obtain ⟨b, bs, hcons⟩ := List.exists_cons_of_ne_nil hne
      have hblocks : code.blocks = b :: bs := hcons
      have htiles := code.tiles_blocks
      rw [hblocks] at htiles
      have hb : b ∈ code.blocks := by
        rw [hblocks]
        exact List.mem_cons_self
      exact Option.isSome_iff_exists.mpr
        ⟨b, Code.startingAt?_blocks_eq_some_iff.mpr ⟨hb, htiles.1⟩⟩

end Program

end CallAtlas
