import CallAtlas.Proofs.ExplicitCalls

/-!
# Calls on objects of a subclass

A call names a method of one class, and at run time the object may be of any class whose superclass
chain passes through it. The method that is then entered is found by climbing from the class of the
object. The call graph has an edge to it: it is either the method that the call itself resolves to,
or was found on the way up to the class that the call names, and then is an override.

## Main results

* `Program.SettlesOn.links`: the climb of a call leads along links
* `Program.resolve_withOwner_cases`: what a call resolves to when its owner is replaced by a
  subclass
* `CallGraph.exists_call_of_resolve_withOwner`: the method entered at run time is a successor of the
  calling block
-/

namespace CallAtlas

namespace Program

variable {p : Program} {callee target : MethodRef} {c d r x : String}

theorem links_of_extends (h : Relation.ReflTransGen p.hierarchy.Extends d c) :
    Relation.ReflTransGen p.image.Link d c := by
  rw [p.hierarchy_eq] at h
  exact h.lift id fun _ _ => Hierarchy.link_of_extends

theorem SettlesOn.links (h : p.SettlesOn callee x) :
    Relation.ReflTransGen p.image.Link callee.owner x := by
  obtain ⟨before, after, hclimbs, -, -⟩ := h
  apply links_of_extends
  apply Hierarchy.reflTransGen_of_mem_superclassChain
  rw [Hierarchy.climbs_nil_iff.mp hclimbs]
  exact List.mem_append_right _ List.mem_cons_self

/-- Climbing from a subclass finds the method of the call itself, or one of a class on the way. -/
theorem resolve_withOwner_cases (hr : callee.owner ∈ p.hierarchy.superclassChain r)
    (h : p.resolve (callee.withOwner r) = .method target) :
    p.resolve callee = .method target ∨
      ∃ y, Relation.ReflTransGen p.image.Link y callee.owner ∧ target = callee.withOwner y := by
  obtain ⟨before, after, hchain, hafter, hbelow⟩ := Hierarchy.superclassChain_split hr
  rw [resolve_eq_iff (by simp), MethodRef.withOwner_owner, resolveOn_withOwner, hchain,
    List.findSome?_append, Option.or_eq_some_iff] at h
  rcases h with hway | ⟨-, habove⟩
  · obtain ⟨y, hy, hfound⟩ := List.exists_of_findSome?_eq_some hway
    obtain ⟨-, -, htarget⟩ := resolveOn_eq_method_iff.mp hfound
    exact .inr ⟨y, links_of_extends (hbelow y hy), htarget⟩
  · -- on a cycle the owner's own chain may go on, but only behind what was found
    exact .inl ((resolve_eq_iff (by simp)).mpr (hafter.findSome?_eq_some habove))

end Program

namespace CallGraph

variable {p : Program} {caller callee target : MethodRef} {b : Block} {i : Instruction}
  {n : CallNode} {kind : CallKind} {r : String}

theorem mem_calls_build_of_mayCall (table : Option RegistrationTable)
    (hinvokes : p.Invokes caller b i callee) (hmay : p.MayCall callee n kind) :
    ⟨.block caller b.start, n, i.addr, kind⟩ ∈ (build p table).calls := by
  have hexplicit : (⟨.block caller b.start, n, i.addr, kind⟩ : Call) ∈
      p.invocations.flatMap p.explicitCalls :=
    Program.mem_flatMap_explicitCalls.mpr ⟨caller, b, i, callee, hinvokes, rfl, rfl, hmay⟩
  rw [← filter_isExplicit_calls_build p table] at hexplicit
  exact List.mem_of_mem_filter hexplicit

/-- **Dispatch is covered**: if a call resolves to a method of the application, the method that an
object of a subclass runs instead is a successor of the calling block, as far as it has a body. -/
theorem exists_call_of_resolve_withOwner (p : Program) (table : Option RegistrationTable)
    (hinvokes : p.Invokes caller b i callee) (hresolve : ∃ t, p.resolve callee = .method t)
    (hr : callee.owner ∈ p.hierarchy.superclassChain r)
    (htarget : p.resolve (callee.withOwner r) = .method target) (hbody : p.HasBody target) :
    ∃ kind, (kind = .direct ∨ kind = .virtual) ∧
      ⟨.block caller b.start, .block target .entry, i.addr, kind⟩ ∈ (build p table).calls := by
  have hcall : ∀ {kind}, p.MayCall callee (.block target .entry) kind →
      ⟨.block caller b.start, .block target .entry, i.addr, kind⟩ ∈ (build p table).calls :=
    fun hmay => mem_calls_build_of_mayCall table hinvokes hmay
  obtain ⟨t, ht⟩ := hresolve
  obtain ⟨x, hx, hframework, rfl⟩ := Program.resolve_eq_method_iff.mp ht
  rcases Program.resolve_withOwner_cases hr htarget with hsame | ⟨y, hlinks, rfl⟩
  · obtain rfl : callee.withOwner x = target := Resolution.method.inj (ht.symm.trans hsame)
    exact ⟨.direct, .inl rfl, hcall (.direct hx hframework hbody)⟩
  · -- the climb of the call may lead back to the class `y` itself
    by_cases hy : y = x
    · subst hy
      exact ⟨.direct, .inl rfl, hcall (.direct hx hframework hbody)⟩
    · exact ⟨.virtual, .inr rfl, hcall (.virtual hx hframework hy (hlinks.trans hx.links) hbody)⟩

/-- A call of `B.m`. -/
def cyclicCall : Instruction := .plain ⟨3⟩ 3 (.invoke ⟨"B", "m", "()V"⟩)

/-- The class `B` stands between `A`, which declares `m`, and `C`, which overrides it. The class `D`
inherits from `C`, and `A` from `D`, which closes a cycle. -/
def cyclicImage : Image :=
  Image.ofClasses
    [⟨"A", some "D", [], [⟨"m", "()V", none⟩,
        ⟨"run", "()V", some ⟨[.plain .entry 3 .other, cyclicCall], [], by decide⟩⟩], []⟩,
      ⟨"B", some "A", [], [], []⟩,
      ⟨"C", some "B", [], [⟨"m", "()V", some ⟨[.plain .entry 1 .return], [], by decide⟩⟩], []⟩,
      ⟨"D", some "C", [], [], []⟩]

/-- The program of these classes. -/
def cyclicProgram : Program :=
  .ofNonempty cyclicImage .none (by decide +kernel)

/-- The call of `B.m` resolves to `A.m`, and runs `C.m` on an object of class `D`. -/
theorem exists_call_of_resolve_withOwner_cyclic :
    cyclicProgram.Invokes ⟨"A", "run", "()V"⟩ ⟨.plain .entry 3 .other, [cyclicCall]⟩ cyclicCall
        ⟨"B", "m", "()V"⟩ ∧
      cyclicProgram.resolve ⟨"B", "m", "()V"⟩ = .method ⟨"A", "m", "()V"⟩ ∧
      "B" ∈ cyclicProgram.hierarchy.superclassChain "D" ∧
      cyclicProgram.resolve ⟨"D", "m", "()V"⟩ = .method ⟨"C", "m", "()V"⟩ ∧
      cyclicProgram.HasBody ⟨"C", "m", "()V"⟩ ∧
      ∃ kind, (kind = .direct ∨ kind = .virtual) ∧
        ⟨.block ⟨"A", "run", "()V"⟩ .entry, .block ⟨"C", "m", "()V"⟩ .entry, ⟨3⟩, kind⟩ ∈
          (build cyclicProgram none).calls := by
  have hinvokes : cyclicProgram.Invokes ⟨"A", "run", "()V"⟩
      ⟨.plain .entry 3 .other, [cyclicCall]⟩ cyclicCall ⟨"B", "m", "()V"⟩ :=
    ⟨.ofCode ⟨[.plain .entry 3 .other, cyclicCall], [], by decide⟩,
      by decide +kernel, by decide +kernel, by decide +kernel, rfl⟩
  have hresolve : cyclicProgram.resolve ⟨"B", "m", "()V"⟩ = .method ⟨"A", "m", "()V"⟩ := by
    decide +kernel
  have hchain : "B" ∈ cyclicProgram.hierarchy.superclassChain "D" := by decide +kernel
  have htarget : cyclicProgram.resolve ⟨"D", "m", "()V"⟩ = .method ⟨"C", "m", "()V"⟩ := by
    decide +kernel
  have hbody : cyclicProgram.HasBody ⟨"C", "m", "()V"⟩ :=
    Program.hasEntry_iff.mp (by decide +kernel)
  exact ⟨hinvokes, hresolve, hchain, htarget, hbody,
    exists_call_of_resolve_withOwner cyclicProgram none hinvokes ⟨_, hresolve⟩ hchain htarget hbody⟩

end CallGraph

end CallAtlas
