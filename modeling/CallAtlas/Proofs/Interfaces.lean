import CallAtlas.Proofs.Dispatch

/-!
# Calls on objects that implement an interface

A call may name a method of an interface, and the object then is of a class from which links lead to
the interface. The method that is entered is found by climbing the superclasses of that class, and
the climb may leave the classes below the interface. The call graph has the edges of the overrides
below the class where the call itself settles, hence it has an edge to the method that is entered
exactly when that method is declared there or further below. This covers what the implementing
classes declare themselves. It leaves out a method that an implementing class inherits from a class
which does not implement the interface, and the calls that settle on the framework or nowhere.

## Main definitions

* `Image.LinkedByInterface`: links lead from a class to another, one of them to an interface
* `Program.RunsByInterface`: the method that a call through an interface enters

## Main results

* `Program.callee_eq_of_invokes`: the caller and the offset of a call determine what it names
* `Program.exists_mayCall_iff`: the methods that a call has an edge to
* `CallGraph.exists_call_iff_mayCall`: the edges between two blocks are those of call instructions
* `CallGraph.exists_call_iff_of_runsByInterface`: when a call through an interface has an edge to
  the method it enters
-/

namespace CallAtlas

/-! ## Links to interfaces -/

namespace Image

variable {image : Image} {d c : String}

/-- Some definition of a class lists another one as an interface. -/
def Implements (image : Image) (d c : String) : Prop :=
  ∃ cls ∈ image.classList, cls.name = d ∧ c ∈ cls.interfaces

instance (image : Image) (d c : String) : Decidable (image.Implements d c) :=
  inferInstanceAs (Decidable (∃ cls ∈ image.classList, cls.name = d ∧ c ∈ cls.interfaces))

/-- Links lead from a class to another, and at least one of them goes to an interface. -/
def LinkedByInterface (image : Image) (d c : String) : Prop :=
  ∃ d' c', Relation.ReflTransGen image.Link d d' ∧ image.Implements d' c' ∧
    Relation.ReflTransGen image.Link c' c

theorem Implements.link (h : image.Implements d c) : image.Link d c := by
  obtain ⟨cls, hcls, hname, hc⟩ := h
  exact ⟨cls, hcls, hname, List.mem_append_right _ hc⟩

theorem LinkedByInterface.links (h : image.LinkedByInterface d c) :
    Relation.ReflTransGen image.Link d c := by
  obtain ⟨d', c', hd, himplements, hc⟩ := h
  exact hd.trans (.head himplements.link hc)

end Image

/-! ## Edges between blocks -/

namespace Program

variable {p : Program} {caller callee callee' target : MethodRef} {b b' : Block}
  {i i' : Instruction} {r y : String}

/-- The caller and the offset of a call instruction determine the method it names. -/
theorem callee_eq_of_invokes (h : p.Invokes caller b i callee) (h' : p.Invokes caller b' i' callee')
    (haddr : i.addr = i'.addr) : callee = callee' := by
  have hmem : (⟨caller, b.start, i.addr, callee⟩ : Invocation) ∈ p.invocations :=
    mem_invocations.mpr ⟨b, i, h, rfl, rfl⟩
  have hmem' : (⟨caller, b'.start, i'.addr, callee'⟩ : Invocation) ∈ p.invocations :=
    mem_invocations.mpr ⟨b', i', h', rfl, rfl⟩
  have hsymm : Std.Symm fun i j : Invocation => ¬ (i.caller = j.caller ∧ i.site = j.site) :=
    ⟨fun _ _ hij hji => hij ⟨hji.1.symm, hji.2.symm⟩⟩
  by_contra hne
  have hdiffer := p.pairwise_invocations.forall hmem hmem'
    fun heq => hne (Invocation.mk.inj heq).2.2.2
  exact hdiffer ⟨rfl, haddr⟩

/-- A call has an edge to a method of that name if it settles on a class of the application that is
the owner of the method or lies above it. -/
theorem exists_mayCall_iff :
    (∃ kind, p.MayCall callee (.block (callee.withOwner y) .entry) kind) ↔
      p.HasBody (callee.withOwner y) ∧
        ∃ x, p.resolve callee = .method (callee.withOwner x) ∧
          Relation.ReflTransGen p.image.Link y x := by
  constructor
  · rintro ⟨kind, hmay⟩
    generalize hn : CallNode.block (callee.withOwner y) .entry = n at hmay
    cases hmay with
    | framework => cases hn
    | @direct x hx hframework hbody =>
      obtain rfl : y = x := congrArg (·.method.owner) hn
      exact ⟨hbody, y, resolve_eq_method_iff.mpr ⟨y, hx, hframework, rfl⟩, .refl⟩
    | @virtual x r hx hframework hne hlinks hbody =>
      obtain rfl : y = r := congrArg (·.method.owner) hn
      exact ⟨hbody, x, resolve_eq_method_iff.mpr ⟨x, hx, hframework, rfl⟩, hlinks⟩
  · rintro ⟨hbody, x, hresolve, hlinks⟩
    obtain ⟨x', hx, hframework, heq⟩ := resolve_eq_method_iff.mp hresolve
    obtain rfl : x = x' := congrArg MethodRef.owner heq
    by_cases hyx : y = x
    · subst hyx
      exact ⟨.direct, .direct hx hframework hbody⟩
    · exact ⟨.virtual, .virtual hx hframework hyx hlinks hbody⟩

/-- On an object of class `r`, from which links lead to the class that the call names, one of them
to an interface, the call enters `target`. -/
structure RunsByInterface (p : Program) (callee : MethodRef) (r : String)
    (target : MethodRef) : Prop where
  application : p.isFramework callee.owner = false
  linked : p.image.LinkedByInterface r callee.owner
  entered : p.resolve (callee.withOwner r) = .method target
  body : p.HasBody target

end Program

namespace CallGraph

variable {p : Program} {caller callee target m : MethodRef} {b : Block} {i : Instruction}
  {n : CallNode} {a : Offset} {e : Call} {r : String}

/-- Callbacks start at placeholders, so the edges out of a block are explicit. -/
theorem isExplicit_of_source_eq_block {table : Option RegistrationTable}
    (he : e ∈ (build p table).calls) (hsource : e.source = .block m a) :
    e.kind.isExplicit = true := by
  rw [calls_build] at he
  obtain ⟨inv, -, he⟩ := List.mem_flatMap.mp he
  rcases List.mem_append.mp he with he | he
  · exact (Program.mem_explicitCalls.mp he).2.2.isExplicit
  · cases table with
    | none => cases he
    | some table =>
      obtain ⟨⟨registration, callback⟩, -, rfl⟩ := List.mem_map.mp he
      cases hsource

/-- The edges from the block of a call instruction, with its offset, are those that the call
contributes. -/
theorem exists_call_iff_mayCall (table : Option RegistrationTable)
    (hinvokes : p.Invokes caller b i callee) :
    (∃ kind, ⟨.block caller b.start, n, i.addr, kind⟩ ∈ (build p table).calls) ↔
      ∃ kind, p.MayCall callee n kind := by
  constructor
  · rintro ⟨kind, hmem⟩
    have hkind : kind.isExplicit = true := isExplicit_of_source_eq_block hmem rfl
    have hexplicit : (⟨.block caller b.start, n, i.addr, kind⟩ : Call) ∈
        (build p table).calls.filter (·.kind.isExplicit) := List.mem_filter.mpr ⟨hmem, hkind⟩
    rw [filter_isExplicit_calls_build] at hexplicit
    obtain ⟨caller', b', i', callee', hinvokes', hsource, hsite, hmay⟩ :=
      Program.mem_flatMap_explicitCalls.mp hexplicit
    obtain ⟨rfl, -⟩ := CallNode.block.inj hsource
    obtain rfl := Program.callee_eq_of_invokes hinvokes hinvokes' hsite
    exact ⟨kind, hmay⟩
  · rintro ⟨kind, hmay⟩
    exact ⟨kind, mem_calls_build_of_mayCall table hinvokes hmay⟩

/-- **Calls through interfaces**: the method that an object runs is a successor of the calling block
exactly when the call settles on a class of the application, and the method is declared there or
below. If the call settles on such a class, this holds of the methods that the class of the object
declares itself, and of those it inherits from a class from which links lead to the interface. -/
theorem exists_call_iff_of_runsByInterface (p : Program) (table : Option RegistrationTable)
    (hinvokes : p.Invokes caller b i callee) (hruns : p.RunsByInterface callee r target) :
    ((∃ kind, ⟨.block caller b.start, .block target .entry, i.addr, kind⟩ ∈
          (build p table).calls) ↔
        ∃ x, p.resolve callee = .method (callee.withOwner x) ∧
          Relation.ReflTransGen p.image.Link target.owner x) ∧
      ∀ t, p.resolve callee = .method t →
        target.owner = r ∨ Relation.ReflTransGen p.image.Link target.owner callee.owner →
        ∃ kind, ⟨.block caller b.start, .block target .entry, i.addr, kind⟩ ∈
          (build p table).calls := by
  obtain ⟨y, -, -, rfl⟩ := Program.resolve_eq_method_iff.mp hruns.entered
  rw [MethodRef.withOwner_withOwner] at hruns ⊢
  rw [exists_call_iff_mayCall table hinvokes, Program.exists_mayCall_iff,
    and_iff_right hruns.body]
  refine ⟨Iff.rfl, fun t ht hy => ?_⟩
  obtain ⟨x, hx, -, rfl⟩ := Program.resolve_eq_method_iff.mp ht
  have hlinks : Relation.ReflTransGen p.image.Link y callee.owner := by
    rcases hy with rfl | hy
    · exact hruns.linked.links
    · exact hy
  exact ⟨x, ht, hlinks.trans hx.links⟩

/-! ## An example of both outcomes -/

/-- The method `run` of a class. -/
def officeRun (owner : String) : MethodRef := ⟨owner, "run", "()V"⟩

/-- The method that makes the calls. -/
def officeMain : MethodRef := ⟨"Main", "main", "()V"⟩

/-- The calls of `Task.run`, `Memo.run` and `Draft.run`. -/
def officeBlock : Block where
  head := .plain .entry 2 (.invoke (officeRun "Task"))
  tail := [.plain ⟨2⟩ 2 (.invoke (officeRun "Memo")), .plain ⟨4⟩ 2 (.invoke (officeRun "Draft"))]

/-- The interface `Task` declares `run`. It is implemented by `Worker`, from which `Clerk` inherits,
and by `Temp`, which inherits `run` from `Agency`. The interface `Memo` refines `Task` without a
declaration of its own, and `Letter` implements it. The interface `Draft` has no definition, and
`Sketch` implements it. -/
def officeImage : Image :=
  Image.ofClasses
    [⟨"Main", none, [], [⟨"main", "()V", some ⟨officeBlock.instructions, [], by decide⟩⟩], []⟩,
      ⟨"Task", some "java.Object", [], [⟨"run", "()V", none⟩], []⟩,
      ⟨"Worker", none, ["Task"], [.returning "run"], []⟩,
      ⟨"Clerk", some "Worker", [], [], []⟩,
      ⟨"Agency", none, [], [.returning "run"], []⟩,
      ⟨"Temp", some "Agency", ["Task"], [], []⟩,
      ⟨"Memo", some "java.Object", ["Task"], [], []⟩,
      ⟨"Letter", none, ["Memo"], [.returning "run"], []⟩,
      ⟨"Sketch", none, ["Draft"], [.returning "run"], []⟩]

/-- The program of these classes. -/
def officeProgram : Program :=
  .ofNonempty officeImage (.ofPrefixes ["java."]) (by decide +kernel)

theorem invokes_officeProgram (hi : i ∈ officeBlock.instructions)
    (hcallee : i.operation = .invoke callee) :
    officeProgram.Invokes officeMain officeBlock i callee :=
  ⟨.ofCode ⟨officeBlock.instructions, [], by decide⟩, by decide +kernel, by decide +kernel, hi,
    hcallee⟩

/-- `Clerk` inherits `run` from `Worker`, and links lead from there to `Task`. -/
theorem exists_call_iff_of_runsByInterface_clerk :
    officeProgram.Invokes officeMain officeBlock officeBlock.head (officeRun "Task") ∧
      officeProgram.RunsByInterface (officeRun "Task") "Clerk" (officeRun "Worker") ∧
      ∃ kind, ⟨.block officeMain .entry, .block (officeRun "Worker") .entry, .entry, kind⟩ ∈
        (build officeProgram none).calls := by
  have hinvokes :
      officeProgram.Invokes officeMain officeBlock officeBlock.head (officeRun "Task") :=
    invokes_officeProgram (by decide) rfl
  have hworker : officeProgram.image.Implements "Worker" "Task" := by decide +kernel
  have hclerk : officeProgram.image.Link "Clerk" "Worker" := by decide +kernel
  have hruns : officeProgram.RunsByInterface (officeRun "Task") "Clerk" (officeRun "Worker") :=
    { application := by decide +kernel
      linked := ⟨"Worker", "Task", .single hclerk, hworker, .refl⟩
      entered := by decide +kernel
      body := Program.hasEntry_iff.mp (by decide +kernel) }
  have htask : officeProgram.resolve (officeRun "Task") = .method (officeRun "Task") := by
    decide +kernel
  exact ⟨hinvokes, hruns,
    (exists_call_iff_of_runsByInterface officeProgram none hinvokes hruns).2 _ htask
      (.inr (.single hworker.link))⟩

/-- Calls that miss the method which an object runs: what `Temp` inherits from `Agency`, when
`Task.run` is called; what `Letter` declares, when the call of `Memo.run` settles on the framework;
what `Sketch` declares, when the call of `Draft.run` settles nowhere. -/
theorem calls_missed_by_interface :
    (officeProgram.Invokes officeMain officeBlock
          (.plain .entry 2 (.invoke (officeRun "Task"))) (officeRun "Task") ∧
        officeProgram.RunsByInterface (officeRun "Task") "Temp" (officeRun "Agency") ∧
        ∀ kind, ⟨.block officeMain .entry, .block (officeRun "Agency") .entry, .entry, kind⟩ ∉
          (build officeProgram none).calls) ∧
      (officeProgram.Invokes officeMain officeBlock
          (.plain ⟨2⟩ 2 (.invoke (officeRun "Memo"))) (officeRun "Memo") ∧
        officeProgram.RunsByInterface (officeRun "Memo") "Letter" (officeRun "Letter") ∧
        ∀ kind, ⟨.block officeMain .entry, .block (officeRun "Letter") .entry, ⟨2⟩, kind⟩ ∉
          (build officeProgram none).calls) ∧
      (officeProgram.Invokes officeMain officeBlock
          (.plain ⟨4⟩ 2 (.invoke (officeRun "Draft"))) (officeRun "Draft") ∧
        officeProgram.RunsByInterface (officeRun "Draft") "Sketch" (officeRun "Sketch") ∧
        ∀ kind, ⟨.block officeMain .entry, .block (officeRun "Sketch") .entry, ⟨4⟩, kind⟩ ∉
          (build officeProgram none).calls) := by
  have htemp : officeProgram.image.Implements "Temp" "Task" := by decide +kernel
  have hletter : officeProgram.image.Implements "Letter" "Memo" := by decide +kernel
  have hsketch : officeProgram.image.Implements "Sketch" "Draft" := by decide +kernel
  have hmissed : ∀ e ∈ (build officeProgram none).calls,
      e.target ≠ .block (officeRun "Agency") .entry ∧
        (e.site = ⟨2⟩ → e.target ≠ .block (officeRun "Letter") .entry) ∧
        e.target ≠ .block (officeRun "Sketch") .entry := by
    decide +kernel
  refine ⟨⟨invokes_officeProgram (by decide) rfl, ?_, fun kind h => (hmissed _ h).1 rfl⟩,
    ⟨invokes_officeProgram (by decide) rfl, ?_, fun kind h => (hmissed _ h).2.1 rfl rfl⟩,
    ⟨invokes_officeProgram (by decide) rfl, ?_, fun kind h => (hmissed _ h).2.2 rfl⟩⟩
  · exact ⟨by decide +kernel, ⟨_, _, .refl, htemp, .refl⟩, by decide +kernel,
      Program.hasEntry_iff.mp (by decide +kernel)⟩
  · exact ⟨by decide +kernel, ⟨_, _, .refl, hletter, .refl⟩, by decide +kernel,
      Program.hasEntry_iff.mp (by decide +kernel)⟩
  · exact ⟨by decide +kernel, ⟨_, _, .refl, hsketch, .refl⟩, by decide +kernel,
      Program.hasEntry_iff.mp (by decide +kernel)⟩

end CallGraph

end CallAtlas
