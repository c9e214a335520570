import CallAtlas.Proofs.Numbering
import CallAtlas.Proofs.Resolution

/-!
# The calls that instructions make themselves

Every call instruction contributes its own edges to the call graph. Where its climb stops at the
framework this is one edge to a placeholder; where it stops at a class of the application, one edge
to the method found there and one to each override below it, as far as these have a body. No edge
occurs twice, since the caller and the offset of an edge determine the instruction behind it.

## Main definitions

* `CallKind.isExplicit`: the kinds of the edges that instructions contribute themselves
* `Program.Invokes`: an instruction of a block calls a method
* `Program.MayCall`: the nodes and kinds of the edges that a call contributes

## Main results

* `Program.mem_invocations`, `Program.pairwise_invocations`: the call instructions of a program
* `Program.mem_overrides`: the overrides below a method
* `Program.mem_explicitCalls`, `Program.nodup_explicitCalls`: the edges of one call instruction
* `Program.mem_flatMap_explicitCalls`, `Program.nodup_flatMap_explicitCalls`: those of all of them
* `CallGraph.filter_isExplicit_calls_build`: the explicit edges, call instruction by call instruction
* `CallGraph.explicit_calls_build`: the explicit edges of a call graph are those of its call
  instructions, each once
-/

namespace CallAtlas

/-- The edge is contributed by a call instruction itself. -/
def CallKind.isExplicit : CallKind → Bool
  | .direct | .virtual | .framework => true
  | .callback | .lifecycle => false

theorem Operation.callee?_eq_some_iff {op : Operation} {callee : MethodRef} :
    op.callee? = some callee ↔ op = .invoke callee := by
  cases op <;> simp [callee?]

/-! ## Call instructions -/

theorem BlockGraph.mem_invocations {g : BlockGraph} {caller : MethodRef} {inv : Invocation} :
    inv ∈ g.invocations caller ↔
      ∃ b ∈ g.blocks, ∃ i ∈ b.instructions, ∃ callee, i.operation = .invoke callee ∧
        ⟨caller, b.start, i.addr, callee⟩ = inv := by
  simp only [invocations, List.mem_flatMap, List.mem_filterMap, Option.map_eq_some_iff,
    Operation.callee?_eq_some_iff]

/-- The call instructions of a body have offsets of their own. -/
theorem BlockGraph.pairwise_invocations_ofCode (caller : MethodRef) (code : Code) :
    ((ofCode code).invocations caller).Pairwise fun i j => i.site ≠ j.site := by
  have haddr : (code.blocks.flatMap Block.instructions).Pairwise fun i j => i.addr ≠ j.addr := by
    rw [Code.flatMap_blocks]
    exact code.tiles_instructions.pairwise_start_ne
  obtain ⟨hinside, hacross⟩ := List.pairwise_flatMap.mp haddr
  refine List.pairwise_flatMap.mpr ⟨fun b hb => List.pairwise_filterMap.mpr ?_, ?_⟩
  · refine (hinside b hb).imp fun {i j} hij x hx y hy => ?_
    obtain ⟨_, _, rfl⟩ := Option.map_eq_some_iff.mp hx
    obtain ⟨_, _, rfl⟩ := Option.map_eq_some_iff.mp hy
    exact hij
  · refine hacross.imp fun {b c} hbc x hx y hy => ?_
    obtain ⟨i, hi, hx⟩ := List.mem_filterMap.mp hx
    obtain ⟨j, hj, hy⟩ := List.mem_filterMap.mp hy
    obtain ⟨_, _, rfl⟩ := Option.map_eq_some_iff.mp hx
    obtain ⟨_, _, rfl⟩ := Option.map_eq_some_iff.mp hy
    exact hbc i hi j hj

namespace Program

variable {p : Program} {caller callee m target : MethodRef} {n : CallNode} {kind : CallKind}
  {inv : Invocation} {e : Call}

/-- The instruction `i` in the block `b` of a method calls `callee`. Of two bodies of one method the
later counts. -/
def Invokes (p : Program) (caller : MethodRef) (b : Block) (i : Instruction)
    (callee : MethodRef) : Prop :=
  ∃ g, p.graph? caller = some g ∧ b ∈ g.blocks ∧ i ∈ b.instructions ∧ i.operation = .invoke callee

theorem mem_graphList {g : BlockGraph} : (m, g) ∈ p.graphList ↔ p.graph? m = some g :=
  Std.ExtTreeMap.mem_toList_iff_getElem?_eq_some

theorem mem_invocations :
    inv ∈ p.invocations ↔
      ∃ b i, p.Invokes inv.caller b i inv.callee ∧ inv.block = b.start ∧ inv.site = i.addr := by
  rw [invocations, List.mem_flatMap]
  constructor
  · rintro ⟨⟨m, g⟩, hg, h⟩
    obtain ⟨b, hb, i, hi, callee, hop, rfl⟩ := BlockGraph.mem_invocations.mp h
    exact ⟨b, i, ⟨g, mem_graphList.mp hg, hb, hi, hop⟩, rfl, rfl⟩
  · rintro ⟨b, i, ⟨g, hg, hb, hi, hop⟩, hblock, hsite⟩
    refine ⟨(inv.caller, g), mem_graphList.mpr hg, BlockGraph.mem_invocations.mpr ?_⟩
    exact ⟨b, hb, i, hi, inv.callee, hop, by rw [← hblock, ← hsite]⟩

/-- The caller and the offset of a call instruction determine it. -/
theorem pairwise_invocations (p : Program) :
    p.invocations.Pairwise fun i j => ¬ (i.caller = j.caller ∧ i.site = j.site) := by
  refine List.pairwise_flatMap.mpr ⟨?_, ?_⟩
  · rintro ⟨m, g⟩ hg
    obtain ⟨code, -, rfl⟩ := exists_body_of_graph?_eq_some (mem_graphList.mp hg)
    exact (BlockGraph.pairwise_invocations_ofCode m code).imp fun {i j} hij h => hij h.2
  · refine Std.ExtTreeMap.distinct_keys_toList.imp ?_
    rintro ⟨m, g⟩ ⟨m', g'⟩ hne i hi j hj ⟨hcaller, -⟩
    obtain ⟨_, _, _, _, _, _, rfl⟩ := BlockGraph.mem_invocations.mp hi
    obtain ⟨_, _, _, _, _, _, rfl⟩ := BlockGraph.mem_invocations.mp hj
    exact hne (Std.LawfulEqOrd.compare_eq_iff_eq.mpr hcaller)

/-! ## The edges of a call instruction -/

/-- The edges that a call of `callee` contributes, by the node where they end and their kind. -/
inductive MayCall (p : Program) (callee : MethodRef) : CallNode → CallKind → Prop where
  /-- The climb stops at the framework, and the call ends at a placeholder. -/
  | framework {x : String} (hx : p.SettlesOn callee x) (hframework : p.isFramework x = true) :
    MayCall p callee (.placeholder (callee.withOwner x)) .framework
  /-- The climb stops at a class of the application, and the method has a body there. -/
  | direct {x : String} (hx : p.SettlesOn callee x) (hframework : p.isFramework x = false)
      (hbody : p.HasBody (callee.withOwner x)) :
    MayCall p callee (.block (callee.withOwner x) .entry) .direct
  /-- The method has a body in another class, from which links lead to the one of the climb. -/
  | virtual {x r : String} (hx : p.SettlesOn callee x) (hframework : p.isFramework x = false)
      (hne : r ≠ x) (hlinks : Relation.ReflTransGen p.image.Link r x)
      (hbody : p.HasBody (callee.withOwner r)) :
    MayCall p callee (.block (callee.withOwner r) .entry) .virtual

theorem MayCall.isExplicit (h : p.MayCall callee n kind) : kind.isExplicit = true := by
  cases h <;> rfl

theorem mem_overrides :
    m ∈ p.overrides target ↔
      ∃ r, r ≠ target.owner ∧ Relation.ReflTransGen p.image.Link r target.owner ∧
        p.HasBody (target.withOwner r) ∧ m = target.withOwner r := by
  simp only [overrides, List.mem_filter, List.mem_map, hasEntry_iff, p.hierarchy_eq,
    Hierarchy.mem_descendants_ofImage]
  constructor
  · rintro ⟨⟨r, ⟨hne, hlinks⟩, rfl⟩, hbody⟩
    exact ⟨r, hne, hlinks, hbody, rfl⟩
  · rintro ⟨r, hne, hlinks, hbody, rfl⟩
    exact ⟨⟨r, ⟨hne, hlinks⟩, rfl⟩, hbody⟩

/-- No override is listed twice, however many paths lead down to its class. -/
theorem nodup_overrides (p : Program) (target : MethodRef) : (p.overrides target).Nodup := by
  refine ((Hierarchy.nodup_descendants _ _).map ?_).filter _
  intro c d h
  exact congrArg MethodRef.owner h

theorem targetNode?_eq_some_iff :
    p.targetNode? (m, kind) = some n ↔
      (kind = .framework ∧ n = .placeholder m) ∨
        (kind ≠ .framework ∧ p.HasBody m ∧ n = .block m .entry) := by
  rw [← hasEntry_iff]
  cases kind <;> simp [targetNode?, @eq_comm _ n]

theorem method_of_targetNode? (h : p.targetNode? (m, kind) = some n) : n.method = m := by
  rcases targetNode?_eq_some_iff.mp h with ⟨-, rfl⟩ | ⟨-, -, rfl⟩ <;> rfl

/-- The targets of a call, as far as they have a node. -/
theorem exists_mem_explicitTargets_iff :
    (∃ m, (m, kind) ∈ p.explicitTargets callee ∧ p.targetNode? (m, kind) = some n) ↔
      p.MayCall callee n kind := by
  simp only [targetNode?_eq_some_iff]
  constructor
  · rintro ⟨m, hm, hn⟩
    rw [explicitTargets] at hm
    split at hm
    next => cases hm
    next target hr =>
      obtain ⟨x, hx, hframework, rfl⟩ := resolve_eq_framework_iff.mp hr
      obtain ⟨rfl, rfl⟩ := Prod.mk.inj (List.mem_singleton.mp hm)
      obtain ⟨-, rfl⟩ | ⟨hne, -⟩ := hn
      · exact .framework hx hframework
      · exact absurd rfl hne
    next target hr =>
      obtain ⟨x, hx, hframework, rfl⟩ := resolve_eq_method_iff.mp hr
      rcases List.mem_cons.mp hm with h | h
      · obtain ⟨rfl, rfl⟩ := Prod.mk.inj h
        obtain ⟨h, -⟩ | ⟨-, hbody, rfl⟩ := hn
        · cases h
        · exact .direct hx hframework hbody
      · obtain ⟨m', hm', h⟩ := List.mem_map.mp h
        obtain ⟨rfl, rfl⟩ := Prod.mk.inj h
        obtain ⟨r, hne, hlinks, hbody, rfl⟩ := mem_overrides.mp hm'
        obtain ⟨h, -⟩ | ⟨-, -, rfl⟩ := hn
        · cases h
        · exact .virtual hx hframework hne hlinks hbody
  · rintro (⟨hx, hframework⟩ | ⟨hx, hframework, hbody⟩ | ⟨hx, hframework, hne, hlinks, hbody⟩)
    · refine ⟨_, ?_, .inl ⟨rfl, rfl⟩⟩
      rw [explicitTargets, resolve_eq_framework_iff.mpr ⟨_, hx, hframework, rfl⟩]
      exact List.mem_singleton_self _
    · refine ⟨_, ?_, .inr ⟨nofun, hbody, rfl⟩⟩
      rw [explicitTargets, resolve_eq_method_iff.mpr ⟨_, hx, hframework, rfl⟩]
      exact List.mem_cons_self
    · refine ⟨_, ?_, .inr ⟨nofun, hbody, rfl⟩⟩
      rw [explicitTargets, resolve_eq_method_iff.mpr ⟨_, hx, hframework, rfl⟩]
      refine List.mem_cons_of_mem _ (List.mem_map_of_mem (mem_overrides.mpr ?_))
      exact ⟨_, hne, hlinks, hbody, rfl⟩

theorem nodup_explicitTargets (p : Program) (callee : MethodRef) :
    (p.explicitTargets callee).Nodup := by
  rw [explicitTargets]
  split
  next => exact List.nodup_nil
  next => exact List.nodup_singleton _
  next target _ =>
    refine List.nodup_cons.mpr ⟨?_, (p.nodup_overrides target).map fun m m' h => congrArg Prod.fst h⟩
    simp

/-- The edges of a call instruction. -/
theorem mem_explicitCalls :
    e ∈ p.explicitCalls inv ↔
      e.source = inv.node ∧ e.site = inv.site ∧ p.MayCall inv.callee e.target e.kind := by
  rw [explicitCalls, List.mem_filterMap, ← exists_mem_explicitTargets_iff]
  constructor
  · rintro ⟨⟨m, kind⟩, hm, h⟩
    obtain ⟨n, hn, rfl⟩ := Option.map_eq_some_iff.mp h
    exact ⟨rfl, rfl, m, hm, hn⟩
  · rintro ⟨hsource, hsite, m, hm, hn⟩
    refine ⟨(m, e.kind), hm, Option.map_eq_some_iff.mpr ⟨e.target, hn, ?_⟩⟩
    rw [← hsource, ← hsite]

/-- A call instruction contributes no edge twice. -/
theorem nodup_explicitCalls (p : Program) (inv : Invocation) : (p.explicitCalls inv).Nodup := by
  refine (p.nodup_explicitTargets inv.callee).filterMap ?_
  rintro ⟨m, kind⟩ ⟨m', kind'⟩ e h h'
  obtain ⟨n, hn, rfl⟩ := Option.map_eq_some_iff.mp h
  obtain ⟨n', hn', heq⟩ := Option.map_eq_some_iff.mp h'
  obtain ⟨-, rfl, -, rfl⟩ := Call.mk.inj heq
  rw [← method_of_targetNode? hn, ← method_of_targetNode? hn']

/-- Callbacks apart, an invocation contributes its explicit calls. -/
theorem filter_isExplicit_callsOf (p : Program) (table : Option RegistrationTable)
    (inv : Invocation) :
    (p.callsOf table inv).filter (·.kind.isExplicit) = p.explicitCalls inv := by
  have hexplicit : (p.explicitCalls inv).filter (·.kind.isExplicit) = p.explicitCalls inv :=
    List.filter_eq_self.mpr fun e he => (mem_explicitCalls.mp he).2.2.isExplicit
  cases table with
  | none => rw [callsOf, List.append_nil, hexplicit]
  | some table =>
    have himplicit : (p.implicitCalls table inv).filter (·.kind.isExplicit) = [] := by
      refine List.filter_eq_nil_iff.mpr fun e he => ?_
      obtain ⟨⟨registration, target⟩, -, rfl⟩ := List.mem_map.mp he
      exact Bool.false_ne_true
    rw [callsOf, List.filter_append, hexplicit, himplicit, List.append_nil]

/-- The edges of all call instructions of a program. -/
theorem mem_flatMap_explicitCalls :
    e ∈ p.invocations.flatMap p.explicitCalls ↔
      ∃ caller b i callee, p.Invokes caller b i callee ∧ e.source = .block caller b.start ∧
        e.site = i.addr ∧ p.MayCall callee e.target e.kind := by
  simp only [List.mem_flatMap, mem_invocations, mem_explicitCalls]
  constructor
  · rintro ⟨inv, ⟨b, i, hinvokes, hblock, hsite⟩, hsource, hsite', hmay⟩
    refine ⟨inv.caller, b, i, inv.callee, hinvokes, ?_, hsite'.trans hsite, hmay⟩
    rw [hsource, Invocation.node, hblock]
  · rintro ⟨caller, b, i, callee, hinvokes, hsource, hsite, hmay⟩
    exact ⟨⟨caller, b.start, i.addr, callee⟩, ⟨b, i, hinvokes, rfl, rfl⟩, hsource, hsite, hmay⟩

/-- The call instructions of a program contribute no edge twice. -/
theorem nodup_flatMap_explicitCalls (p : Program) :
    (p.invocations.flatMap p.explicitCalls).Nodup := by
  refine List.nodup_flatMap.mpr ⟨fun inv _ => p.nodup_explicitCalls inv, ?_⟩
  refine p.pairwise_invocations.imp fun {i j} hij e hi hj => hij ?_
  obtain ⟨hsource, hsite, -⟩ := mem_explicitCalls.mp hi
  obtain ⟨hsource', hsite', -⟩ := mem_explicitCalls.mp hj
  have hnode : i.node = j.node := hsource.symm.trans hsource'
  exact ⟨(CallNode.block.inj hnode).1, hsite.symm.trans hsite'⟩

end Program

namespace CallGraph

/-- The explicit edges of a call graph, call instruction by call instruction. -/
theorem filter_isExplicit_calls_build (p : Program) (table : Option RegistrationTable) :
    (build p table).calls.filter (·.kind.isExplicit) = p.invocations.flatMap p.explicitCalls := by
  rw [calls_build, List.filter_flatMap]
  simp only [Program.filter_isExplicit_callsOf]

/-- **The explicit edges of a call graph** are those of its call instructions, each once: a bridge
to the framework where the climb of the call stops there; otherwise the method that the climb finds
and its overrides, as far as they have a body. -/
theorem explicit_calls_build (p : Program) (table : Option RegistrationTable) :
    ((build p table).calls.filter (·.kind.isExplicit)).Nodup ∧
      ∀ e, e ∈ (build p table).calls.filter (·.kind.isExplicit) ↔
        ∃ caller b i callee, p.Invokes caller b i callee ∧ e.source = .block caller b.start ∧
          e.site = i.addr ∧ p.MayCall callee e.target e.kind := by
  rw [filter_isExplicit_calls_build]
  exact ⟨p.nodup_flatMap_explicitCalls, fun e => Program.mem_flatMap_explicitCalls⟩

end CallGraph

end CallAtlas
