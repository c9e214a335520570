import CallAtlas.Proofs.ControlFlow
import CallAtlas.Proofs.ExplicitCalls

/-!
# Two records of the explicit calls

A call graph keeps what call instructions come to in two lists: the edges, which callbacks are mixed
into, and the resolved calls, which the cross references are made of. The two are written under
different conditions. An override is looked for among the methods that have a body, while the method
that a call resolves to is recorded in any case, and has an edge only if there is a block to end at.
This is the only difference: read as resolved calls, the explicit edges are the resolved calls in the
same order, but for direct ones of a method without body. Both name the block of the call by its
start.

## Main definitions

* `Call.reading?`: an edge read as a resolved call
* `Program.lacksBody`: a method has no block graph, or its body is empty

## Main results

* `Program.isSome_targetNode?_iff`: the targets that have a node
* `Program.map_reading?_explicitCalls`: the two records of one call instruction
* `CallGraph.explicit_calls_eq_resolved`: the two records of a call graph
-/

namespace CallAtlas

/-- An edge out of a block, read as a call that is resolved to the method of its target. -/
def Call.reading? (e : Call) : Option ResolvedCall :=
  if e.source.isPlaceholder then none
  else some ⟨e.source.method, e.source.offset, e.site, e.target.method, e.kind⟩

/-- A body without block has no instruction, and the other way round. -/
theorem Code.blocks_eq_nil_iff {code : Code} : code.blocks = [] ↔ code.instructions = [] := by
  constructor
  · intro hblocks
    rw [← code.flatMap_blocks, hblocks, List.flatMap_nil]
  · intro hinstructions
    rw [blocks, hinstructions, Block.split_nil]

namespace Program

variable {p : Program} {m callee : MethodRef} {kind : CallKind} {r : ResolvedCall}

/-- Whether a method has no block graph, or one of an empty body. -/
def lacksBody (p : Program) (m : MethodRef) : Bool :=
  (p.graph? m).all fun g => g.code.instructions.isEmpty

/-- The methods that can be entered are those that do not lack a body. -/
theorem hasEntry_eq_not_lacksBody (p : Program) (m : MethodRef) :
    p.hasEntry m = !p.lacksBody m := by
  rw [Bool.eq_iff_iff, hasEntry_iff, HasBody, lacksBody]
  cases hg : p.graph? m with
  | none => simp
  | some g =>
    obtain ⟨code, -, rfl⟩ := exists_body_of_graph?_eq_some hg
    simp [BlockGraph.ofCode, Code.blocks_eq_nil_iff]

/-- What a call may reach is a framework method, the resolved method, or an override with a body. -/
theorem kind_of_mem_explicitTargets (h : (m, kind) ∈ p.explicitTargets callee) :
    kind = .framework ∨ kind = .direct ∨ (kind = .virtual ∧ p.hasEntry m = true) := by
  rw [explicitTargets] at h
  split at h
  next => cases h
  next =>
    obtain ⟨-, rfl⟩ := Prod.mk.inj (List.mem_singleton.mp h)
    exact .inl rfl
  next target _ =>
    rcases List.mem_cons.mp h with h | h
    · obtain ⟨-, rfl⟩ := Prod.mk.inj h
      exact .inr (.inl rfl)
    · obtain ⟨m', hm', h⟩ := List.mem_map.mp h
      obtain ⟨rfl, rfl⟩ := Prod.mk.inj h
      exact .inr (.inr ⟨rfl, (List.mem_filter.mp hm').2⟩)

/-- The targets of a call have a node, but for a resolved method without body. -/
theorem isSome_targetNode?_iff (h : (m, kind) ∈ p.explicitTargets callee) :
    (p.targetNode? (m, kind)).isSome = true ↔ ¬ (kind = .direct ∧ p.lacksBody m = true) := by
  rcases kind_of_mem_explicitTargets h with rfl | rfl | ⟨rfl, hentry⟩
  · simp [targetNode?]
  · simp [targetNode?, hasEntry_eq_not_lacksBody]
  · simp [targetNode?, hentry]

/-- The edge of a call instruction is read as a call by its caller, from its block. -/
theorem reading?_node (inv : Invocation) (n : CallNode) (kind : CallKind) :
    Call.reading? ⟨inv.node, n, inv.site, kind⟩ =
      some ⟨inv.caller, inv.block, inv.site, n.method, kind⟩ := rfl

/-- **The two records of a call instruction**: its edges are its resolved calls, in order, but for
the resolved method without body. -/
theorem map_reading?_explicitCalls (p : Program) (inv : Invocation) :
    (p.explicitCalls inv).map Call.reading? =
      ((p.resolvedCalls inv).filter fun r =>
        ¬ (r.kind = .direct ∧ p.lacksBody r.callee = true)).map some := by
  rw [explicitCalls, resolvedCalls, ← List.filterMap_eq_filter, List.map_filterMap,
    List.map_filterMap, List.filterMap_map]
  refine List.filterMap_congr ?_
  rintro ⟨m, kind⟩ hm
  have hnode := isSome_targetNode?_iff hm
  cases htarget : p.targetNode? (m, kind) with
  | none =>
    have hlacks : kind = .direct ∧ p.lacksBody m = true := by simpa [htarget] using hnode
    simp [Option.guard, hlacks]
  | some n =>
    have hkeeps : ¬ (kind = .direct ∧ p.lacksBody m = true) := hnode.mp (by rw [htarget]; rfl)
    simp only [Option.map_some, reading?_node, method_of_targetNode? htarget, Function.comp_apply,
      Option.guard, decide_eq_true hkeeps, if_true]

/-- The block of a resolved call is the one that contains the offset of the call. -/
theorem exists_blockAt?_of_mem_resolvedCalls {inv : Invocation} (hinv : inv ∈ p.invocations)
    (hr : r ∈ p.resolvedCalls inv) :
    ∃ g b, p.graph? r.caller = some g ∧ g.blockAt? r.site = some b ∧ b.start = r.block := by
  obtain ⟨⟨m, kind⟩, -, rfl⟩ := List.mem_map.mp hr
  obtain ⟨b, i, ⟨g, hg, hb, hi, -⟩, hblock, hsite⟩ := mem_invocations.mp hinv
  obtain ⟨code, -, rfl⟩ := exists_body_of_graph?_eq_some hg
  refine ⟨_, b, hg, ?_, hblock.symm⟩
  show (BlockGraph.ofCode code).blockAt? inv.site = some b
  rw [hsite]
  exact Code.blockAt?_ofCode hb (Code.contains_addr hb hi)

end Program

/-- **The two records of the explicit calls agree**: read as resolved calls, the explicit edges of a
call graph are its resolved calls in order, but for the direct ones of a method without block graph
or with an empty body; and the block that is recorded for a call is the one of the caller that
contains its offset. -/
theorem CallGraph.explicit_calls_eq_resolved (p : Program) (table : Option RegistrationTable) :
    ((build p table).calls.filter (·.kind.isExplicit)).map Call.reading? =
      ((build p table).resolved.filter fun r =>
        ¬ (r.kind = .direct ∧ p.lacksBody r.callee = true)).map some ∧
    ∀ r ∈ (build p table).resolved,
      ∃ g b, p.graph? r.caller = some g ∧ g.blockAt? r.site = some b ∧ b.start = r.block := by
  have hresolved : (build p table).resolved = p.invocations.flatMap p.resolvedCalls := rfl
  rw [filter_isExplicit_calls_build, hresolved]
  constructor
  · rw [List.map_flatMap, List.filter_flatMap, List.map_flatMap]
    simp only [Program.map_reading?_explicitCalls]
  · intro r hr
    obtain ⟨inv, hinv, hr⟩ := List.mem_flatMap.mp hr
    exact Program.exists_blockAt?_of_mem_resolvedCalls hinv hr

end CallAtlas
