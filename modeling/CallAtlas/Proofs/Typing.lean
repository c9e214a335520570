import CallAtlas.CallGraph.Lifecycle
import CallAtlas.Proofs.Callbacks
import CallAtlas.Proofs.Filing
import CallAtlas.Proofs.Filtering

/-!
# The nodes and edges of a call graph

However a call graph was built, linked and filtered, its blocks are blocks of application methods,
and the kind of an edge tells what stands at its ends. Explicit calls lead from the block of a call
instruction to the entry of a method or to the placeholder of a framework class; callbacks lead from
a placeholder to the entry of a method; lifecycles lead from an entry placeholder or the entry of a
method to that of another. Building and linking add edges of these sorts with their ends, and
filtering only takes nodes and edges away. The nodes are numbered, and renumbered by filtering; all
along, the index leads from each label to the number of the one node that has it.

## Main definitions

* `Program.IsNode`: the nodes that a call graph of a program can have
* `Program.Admits`: the edges that it can have
* `Program.Runs`: the method behind a callback of a class
* `CallGraph.Store.WellFormed`: numbered nodes and edges of these sorts, with the index in step
* `CallGraph.Derives`: what building, linking and filtering give

## Main results

* `Program.Admits.isNode_source`, `Program.Admits.isNode_target`: the ends of such an edge are nodes
* `Program.callbackNode?_eq_some_iff`: the nodes of callbacks
* `Program.admits_of_mem_callsOf`, `Program.admits_of_mem_lifecycleCalls`: the edges that are added
* `CallGraph.Store.WellFormed.addCalls`, `CallGraph.Store.WellFormed.retain`: what one step
  preserves
* `CallGraph.Derives.wellFormed`: what arises is well-formed
* `CallGraph.nodes_and_edges_of_derives`: the nodes and edges of every call graph that arises
-/

namespace CallAtlas

namespace Program

variable {p : Program} {caller callee m target : MethodRef} {b : Block} {i : Instruction}
  {g : BlockGraph} {n : CallNode} {e : Call} {c : Component} {table : RegistrationTable}

/-! ## Nodes -/

/-- The nodes that a call graph of the program can have: placeholders, and the blocks of the methods
of the application, by the offsets at which they start. -/
def IsNode (p : Program) : CallNode → Prop
  | .block m a =>
    p.isFramework m.owner = false ∧ ∃ g, p.graph? m = some g ∧ ∃ b ∈ g.blocks, b.start = a
  | .placeholder _ => True

/-- Only methods of the application have block graphs. -/
theorem isFramework_of_graph?_eq_some (h : p.graph? m = some g) :
    p.isFramework m.owner = false := by
  obtain ⟨code, hbody, -⟩ := exists_body_of_graph?_eq_some h
  obtain ⟨cls, hcls, hmem⟩ := List.mem_flatMap.mp hbody
  have hname : m.owner = cls.name := owner_of_mem_bodies hmem
  rw [hname]
  simpa [isFramework] using (List.mem_filter.mp hcls).2

theorem Invokes.isNode (h : p.Invokes caller b i callee) : p.IsNode (.block caller b.start) := by
  obtain ⟨g, hg, hb, -, -⟩ := h
  exact ⟨isFramework_of_graph?_eq_some hg, g, hg, b, hb, rfl⟩

/-- The entry of a method that has a body is the start of its first block. -/
theorem HasBody.isNode (h : p.HasBody m) : p.IsNode (.block m .entry) := by
  obtain ⟨g, hg, -⟩ := id h
  refine ⟨isFramework_of_graph?_eq_some hg, g, hg, ?_⟩
  have hentry : (g.blockStartingAt? .entry).isSome = true := by
    simpa only [hasEntry, hg] using hasEntry_iff.mpr h
  obtain ⟨code, -, rfl⟩ := exists_body_of_graph?_eq_some hg
  obtain ⟨b, hb⟩ := Option.isSome_iff_exists.mp hentry
  exact ⟨b, Code.startingAt?_blocks_eq_some_iff.mp hb⟩

/-! ## Edges -/

/-- The edges that a call graph of the program can have, by their kinds. -/
inductive Admits (p : Program) : Call → Prop where
  /-- A call instruction enters a method. -/
  | call {caller callee target : MethodRef} {b : Block} {i : Instruction} {kind : CallKind}
      (hinvokes : p.Invokes caller b i callee) (hkind : kind = .direct ∨ kind = .virtual)
      (hbody : p.HasBody target) :
    Admits p ⟨.block caller b.start, .block target .entry, i.addr, kind⟩
  /-- A call instruction leaves the application. -/
  | bridge {caller callee target : MethodRef} {b : Block} {i : Instruction}
      (hinvokes : p.Invokes caller b i callee) (hframework : p.isFramework target.owner = true) :
    Admits p ⟨.block caller b.start, .placeholder target, i.addr, .framework⟩
  /-- A method that a call instruction registers is entered from the registration. -/
  | callback {caller callee registration target : MethodRef} {b : Block} {i : Instruction}
      (hinvokes : p.Invokes caller b i callee) (hbody : p.HasBody target) :
    Admits p ⟨.placeholder registration, .block target .entry, i.addr, .callback⟩
  /-- A component is started. -/
  | start {target : MethodRef} (c : Component) (hbody : p.HasBody target) :
    Admits p ⟨c.entry, .block target .entry, .entry, .lifecycle⟩
  /-- A component goes on to another of its callbacks. -/
  | next {source target : MethodRef} (hsource : p.HasBody source) (hbody : p.HasBody target) :
    Admits p ⟨.block source .entry, .block target .entry, .entry, .lifecycle⟩

theorem Admits.isNode_source (h : p.Admits e) : p.IsNode e.source := by
  cases h with
  | call hinvokes _ _ => exact hinvokes.isNode
  | bridge hinvokes _ => exact hinvokes.isNode
  | callback _ _ => trivial
  | start c _ => trivial
  | next hsource _ => exact hsource.isNode

theorem Admits.isNode_target (h : p.Admits e) : p.IsNode e.target := by
  cases h with
  | call _ _ hbody => exact hbody.isNode
  | bridge _ _ => trivial
  | callback _ hbody => exact hbody.isNode
  | start _ hbody => exact hbody.isNode
  | next _ hbody => exact hbody.isNode

theorem MayCall.admits (h : p.MayCall callee n kind) (hinvokes : p.Invokes caller b i callee) :
    p.Admits ⟨.block caller b.start, n, i.addr, kind⟩ := by
  cases h with
  | framework hx hframework => exact .bridge hinvokes hframework
  | direct hx hframework hbody => exact .call hinvokes (.inl rfl) hbody
  | virtual hx hframework hne hlinks hbody => exact .call hinvokes (.inr rfl) hbody

/-- The edges that the call instructions contribute. -/
theorem admits_of_mem_callsOf {table : Option RegistrationTable} {inv : Invocation}
    (hinv : inv ∈ p.invocations) (he : e ∈ p.callsOf table inv) : p.Admits e := by
  obtain ⟨b, i, hinvokes, hblock, hsite⟩ := mem_invocations.mp hinv
  rcases List.mem_append.mp he with he | he
  · obtain ⟨hsource, hsite', hmay⟩ := mem_explicitCalls.mp he
    obtain ⟨source, n, site, kind⟩ := e
    dsimp only at hsource hsite' hmay
    subst hsource hsite'
    rw [Invocation.node, hblock, hsite]
    exact hmay.admits hinvokes
  · cases table with
    | none => cases he
    | some table =>
      have hmem : e ∈ p.implicitCalls table inv := he
      rw [implicitCalls_eq_map] at hmem
      obtain ⟨c, hc, rfl⟩ := List.mem_map.mp hmem
      obtain ⟨-, hsite', hback⟩ := mem_causesOf.mp hc
      rw [CallbackCause.call, hsite', hsite]
      exact .callback hinvokes hback.hasBody

/-! ## Lifecycles -/

/-- The node is the entry of a method that has a body. -/
def IsEntry (p : Program) (n : CallNode) : Prop := ∃ m, n = .block m .entry ∧ p.HasBody m

/-- The callback of a class is a method of the application that has a body, of its own or
inherited. -/
def Runs (p : Program) (className : String) (callback : String × String) (m : MethodRef) : Prop :=
  p.resolve ⟨className, callback.1, callback.2⟩ = .method m ∧ p.HasBody m

theorem callbackNode?_eq_some_iff {className : String} {callback : String × String} :
    p.callbackNode? className callback = some n ↔
      ∃ m, p.Runs className callback m ∧ n = .block m .entry := by
  simp only [callbackNode?, Runs, ← hasEntry_iff]
  constructor
  · intro h
    split at h
    next m hm =>
      split at h
      next hentry => exact ⟨m, ⟨hm, hentry⟩, (Option.some.inj h).symm⟩
      next => cases h
    next => cases h
  · rintro ⟨m, ⟨hm, hentry⟩, rfl⟩
    rw [hm]
    exact if_pos hentry

theorem isEntry_of_mem_stageNodes {stage : List CallNode} (hstage : stage ∈ p.stageNodes c)
    (hn : n ∈ stage) : p.IsEntry n := by
  obtain ⟨callbacks, -, rfl⟩ := List.mem_map.mp hstage
  obtain ⟨callback, -, hcallback⟩ := List.mem_filterMap.mp hn
  obtain ⟨m, hruns, rfl⟩ := callbackNode?_eq_some_iff.mp hcallback
  exact ⟨m, rfl, hruns.2⟩

/-- The edges of a chain start at its first nodes or at a stage, and end at a stage. -/
theorem mem_chainCalls {sources : List CallNode} {stages : List (List CallNode)}
    (he : e ∈ chainCalls sources stages) :
    (e.source ∈ sources ∨ ∃ stage ∈ stages, e.source ∈ stage) ∧
      (∃ stage ∈ stages, e.target ∈ stage) ∧ e.site = .entry ∧ e.kind = .lifecycle := by
  induction stages generalizing sources with
  | nil => cases he
  | cons stage stages ih =>
    rcases List.mem_append.mp he with he | he
    · obtain ⟨s, hs, he⟩ := List.mem_flatMap.mp he
      obtain ⟨t, ht, rfl⟩ := List.mem_map.mp he
      exact ⟨.inl hs, ⟨stage, List.mem_cons_self, ht⟩, rfl, rfl⟩
    · obtain ⟨hsource, ⟨stage', hstage', htarget⟩, hrest⟩ := ih he
      refine ⟨.inr ?_, ⟨stage', List.mem_cons_of_mem _ hstage', htarget⟩, hrest⟩
      rcases hsource with hsource | ⟨stage'', hstage'', hsource⟩
      · exact ⟨stage, List.mem_cons_self, hsource⟩
      · exact ⟨stage'', List.mem_cons_of_mem _ hstage'', hsource⟩

/-- The edges that linking a component adds. -/
theorem admits_of_mem_lifecycleCalls (he : e ∈ p.lifecycleCalls c) : p.Admits e := by
  rw [lifecycleCalls] at he
  split at he
  · cases he
  · have hstage : ∀ stage ∈ (p.stageNodes c).filter (· ≠ []), ∀ n ∈ stage, p.IsEntry n :=
      fun stage h n hn => isEntry_of_mem_stageNodes (List.mem_of_mem_filter h) hn
    obtain ⟨hsource, ⟨stage, hmem, htarget⟩, hsite, hkind⟩ := mem_chainCalls he
    obtain ⟨source, n, site, kind⟩ := e
    dsimp only at hsource htarget hsite hkind
    subst hsite hkind
    obtain ⟨target, rfl, hbody⟩ := hstage stage hmem n htarget
    rcases hsource with hsource | ⟨stage', hmem', hsource⟩
    · obtain rfl := List.mem_singleton.mp hsource
      exact .start c hbody
    · obtain ⟨m, rfl, hm⟩ := hstage stage' hmem' source hsource
      exact .next hm hbody

end Program

/-! ## Graphs -/

namespace CallGraph

variable {p : Program} {s : Store} {calls : List Call}

/-- Labels and index are in step, and the nodes and edges are such as the program admits. -/
structure Store.WellFormed (p : Program) (s : Store) : Prop extends Store.Consistent s where
  nodes : ∀ n ∈ s.nodes, p.IsNode n
  calls : ∀ c ∈ s.calls, p.Admits c

/-- What a program gives rise to: the nodes and edges of its call graph with any registrations,
extended by the lifecycles of any components, and filtered in any way, any number of times and in
any order. -/
inductive Derives (p : Program) : Store → Prop where
  | build (table : Option RegistrationTable) : Derives p (.build p table)
  | link {s : Store} (hs : Derives p s) (components : ComponentTable) :
    Derives p (s.link p components)
  | filter {s : Store} (hs : Derives p s) (accept : CallNode → Bool) : Derives p (s.filter accept)

namespace Store

theorem wellFormed_empty (p : Program) : empty.WellFormed p where
  toConsistent := consistent_empty
  nodes _ hn := nomatch hn
  calls _ hc := nomatch hc

/-- Adding edges that the program admits, with their ends. -/
theorem WellFormed.addCalls (h : s.WellFormed p) (hcalls : ∀ c ∈ calls, p.Admits c) :
    (s.addCalls calls).WellFormed p where
  toConsistent := h.toConsistent.addCalls calls
  nodes n hn := by
    rcases h.toConsistent.mem_nodes_addCalls.mp hn with hn | ⟨c, hc, rfl | rfl⟩
    · exact h.nodes n hn
    · exact (hcalls c hc).isNode_source
    · exact (hcalls c hc).isNode_target
  calls c hc := by
    rw [h.toConsistent.calls_addCalls] at hc
    rcases List.mem_append.mp hc with hc | hc
    · exact h.calls c hc
    · exact hcalls c hc

/-- Taking nodes away, with their edges; the others are renumbered. -/
theorem WellFormed.retain (h : s.WellFormed p) (keep : Nat → Bool) :
    (s.retain keep).WellFormed p where
  toConsistent := h.toConsistent.retain keep
  nodes n hn := by
    obtain ⟨i, hi, -⟩ := (Option.any_eq_true _ _).mp (h.toConsistent.mem_nodes_retain.mp hn)
    exact h.nodes n (mem_nodes.mpr ⟨i, (h.inverse n i).mp hi⟩)
  calls c hc := by
    rw [h.toConsistent.calls_retain] at hc
    exact h.calls c (List.mem_of_mem_filter hc)

/-- What is recorded beside nodes and edges does not matter. -/
theorem WellFormed.record (h : s.WellFormed p) (resolved : List ResolvedCall)
    (entries : List CallNode) : { s with resolved, entries }.WellFormed p :=
  ⟨⟨h.inverse, h.ends⟩, h.nodes, h.calls⟩

theorem wellFormed_build (p : Program) (table : Option RegistrationTable) :
    (Store.build p table).WellFormed p := by
  have hcalls : ∀ c ∈ p.invocations.flatMap (p.callsOf table), p.Admits c := by
    intro c hc
    obtain ⟨inv, hinv, hc⟩ := List.mem_flatMap.mp hc
    exact Program.admits_of_mem_callsOf hinv hc
  exact ((wellFormed_empty p).addCalls hcalls).record _ _

theorem WellFormed.link (h : s.WellFormed p) (components : ComponentTable) :
    (s.link p components).WellFormed p := by
  have hcalls : ∀ c ∈ components.toList.flatMap p.lifecycleCalls, p.Admits c := by
    intro c hc
    obtain ⟨component, -, hc⟩ := List.mem_flatMap.mp hc
    exact Program.admits_of_mem_lifecycleCalls hc
  exact (h.addCalls hcalls).record _ _

end Store

/-- Whatever arises is well-formed. -/
theorem Derives.wellFormed (h : Derives p s) : s.WellFormed p := by
  induction h with
  | build table => exact Store.wellFormed_build p table
  | link _ components ih => exact ih.link components
  | filter _ accept ih => exact ih.retain _

/-- **The nodes and edges of a call graph**, whatever components it was linked with and however it
was filtered: no label stands for two nodes, and the index leads from a label to the number of its
node, and from nothing else; the blocks are blocks of application methods; every edge joins two
nodes, and these and its site are as its kind demands. -/
theorem nodes_and_edges_of_derives (h : Derives p s) :
    s.nodes.Nodup ∧
      (∀ (n : CallNode) (i : Nat), s.numbers[n]? = some i ↔ s.labels[i]? = some n) ∧
      (∀ n ∈ s.nodes, p.IsNode n) ∧
      ∀ e ∈ s.edges, ∃ c, s.call? e = some c ∧ p.Admits c := by
  have hs := h.wellFormed
  refine ⟨hs.nodup_nodes, hs.inverse, hs.nodes, fun e he => ?_⟩
  obtain ⟨c, hc⟩ := hs.toConsistent.exists_call? he
  exact ⟨c, hc, hs.calls c (Store.mem_calls.mpr ⟨e, he, hc⟩)⟩

/-- An activity that calls two methods of its own when it is created, and registers a listener. -/
def screenImage : Image :=
  let calls : List Instruction := [.plain .entry 2 (.invoke ⟨"Screen", "hide", "()V"⟩),
    .plain ⟨2⟩ 2 (.invoke ⟨"Screen", "show", "()V"⟩),
    .plain ⟨4⟩ 2 (.invoke ⟨"fw.Button", "listen", "()V"⟩)]
  Image.ofClasses [⟨"Screen", some "fw.Activity", [],
    [⟨"onCreate", "(Landroid/os/Bundle;)V", some ⟨calls, [], by decide⟩⟩,
      .returning "onStart", .returning "hide", .returning "show", .returning "onClick"], []⟩]

/-- The program of this class. -/
def screenProgram : Program :=
  .ofNonempty screenImage (.ofPrefixes ["fw."]) (by decide +kernel)

/-- Its call graph with callbacks and lifecycle, reduced to what leads to the methods `show` and
`onClick`. -/
def screenGraph : CallGraph :=
  let table := RegistrationTable.ofList
    [⟨⟨"fw.Button", "listen", "()V"⟩, .receiver, ⟨"fw.Listener", "onClick", "()V"⟩⟩]
  let components := ComponentTable.ofList [⟨"Screen", .activity⟩]
  ((build screenProgram (some table)).link screenProgram components).filter fun n =>
    n.method.name = "show" ∨ n.method.name = "onClick"

/-- The filter leaves out the method `hide`, which was the second node, so that the nodes after it
get new numbers, and the step of the lifecycle from `onCreate` to `onStart`. -/
theorem nodes_and_edges_of_derives_screenGraph :
    Derives screenProgram screenGraph.toStore ∧
      screenGraph.nodes.map (·.method.name) =
        ["onCreate", "show", "listen", "onClick", "<activity>"] ∧
      screenGraph.edges.toList.map (fun e => (e.source, e.target, e.kind)) =
        [(0, 1, .direct), (0, 2, .framework), (2, 3, .callback), (4, 0, .lifecycle)] ∧
      (∀ (n : CallNode) (i : Nat),
        screenGraph.numbers[n]? = some i ↔ screenGraph.labels[i]? = some n) ∧
      ∀ e ∈ screenGraph.edges, ∃ c, screenGraph.call? e = some c ∧ screenProgram.Admits c := by
  have hderives : Derives screenProgram screenGraph.toStore := .filter (.link (.build _) _) _
  obtain ⟨-, hinverse, -, hedges⟩ := nodes_and_edges_of_derives hderives
  exact ⟨hderives, by decide +kernel, by decide +kernel, hinverse, hedges⟩

end CallGraph

end CallAtlas
