import CallAtlas.Proofs.Filtering
import CallAtlas.Proofs.Typing

/-!
# Filtering and the paths of an execution

An execution goes from block to block of a method as well as from a call to the method it enters.
The call graph holds only the calls: two blocks of one method are not connected in it, and a filter,
which follows calls alone, does not see that the entry of a method may lead to a call further down.
So a filter by methods keeps a node exactly if an execution path leads from it to a match which
passes from block to block only inside methods that match themselves. A path that has to do so
inside another method is cut.

## Main definitions

* `CallGraph.stepsFrom`: the steps of an execution out of a node
* `CallGraph.Proceeds`: an execution may go from a node to another in one step
* `CallGraph.ProceedsWithin`: the same, with steps from block to block only inside some methods

## Main results

* `CallGraph.Store.WellFormed.blockAt?_eq_some`: the block behind a node
* `CallGraph.Store.WellFormed.hasCall_iff`: the calls are the steps that leave a block otherwise
  than to another block of its method
* `CallGraph.Store.WellFormed.exists_proceedsWithin_iff`: a path to a match that passes from block
  to block only inside methods that match amounts to a path of calls
* `CallGraph.mem_nodes_filter_iff_proceedsWithin`: what a filter by methods keeps
-/

namespace CallAtlas.CallGraph

variable {p : Program} {g : CallGraph} {m : MethodRef} {a : Offset} {n n' : CallNode} {s : Step}

/-! ## Steps -/

/-- The steps of an execution out of a node: those of a block inside its method and to other nodes,
or the calls out of a placeholder. -/
def stepsFrom (g : CallGraph) (p : Program) : CallNode → List Step
  | .block m a => g.successors p m a
  | .placeholder m => (g.callsFrom (.placeholder m)).map fun c => ⟨c.site, .inter c.kind, c.target⟩

/-- An execution may go from a node to another in one step. -/
def Proceeds (g : CallGraph) (p : Program) (n n' : CallNode) : Prop :=
  ∃ s ∈ g.stepsFrom p n, s.target = n'

/-- An execution may go from a node to another in one step, and does so by a call or inside a method
that `select` picks. A step of the second sort starts at a match, so for paths to a match it is not
needed: these amount to paths of calls. -/
def ProceedsWithin (g : CallGraph) (p : Program) (select : MethodRef → Bool) (n n' : CallNode) :
    Prop :=
  ∃ s ∈ g.stepsFrom p n, s.target = n' ∧ (s.kind = .intra → select n.method = true)

instance (g : CallGraph) (p : Program) (n n' : CallNode) : Decidable (g.Proceeds p n n') :=
  inferInstanceAs (Decidable (∃ s ∈ g.stepsFrom p n, s.target = n'))

instance (g : CallGraph) (p : Program) (select : MethodRef → Bool) (n n' : CallNode) :
    Decidable (g.ProceedsWithin p select n n') :=
  inferInstanceAs
    (Decidable (∃ s ∈ g.stepsFrom p n, s.target = n' ∧ (s.kind = .intra → select n.method = true)))

/-- A block of a call graph is the block of its method that starts at its offset. -/
theorem Store.WellFormed.blockAt?_eq_some (h : g.WellFormed p) (hn : .block m a ∈ g.nodes) :
    ∃ graph b, p.graph? m = some graph ∧ graph.blockAt? a = some b ∧ b.start = a := by
  obtain ⟨-, graph, hgraph, b, hb, rfl⟩ := h.nodes _ hn
  obtain ⟨code, -, rfl⟩ := Program.exists_body_of_graph?_eq_some hgraph
  exact ⟨_, b, hgraph, Code.find?_blocks_eq_some_iff.mpr ⟨hb, Code.contains_start hb⟩, rfl⟩

/-- The steps out of a node that do not stay in its method are the calls out of it. -/
theorem Store.WellFormed.mem_stepsFrom_iff (h : g.WellFormed p) (hn : n ∈ g.nodes)
    (hs : s.kind ≠ .intra) :
    s ∈ g.stepsFrom p n ↔ ∃ e ∈ g.callsFrom n, ⟨e.site, .inter e.kind, e.target⟩ = s := by
  cases n with
  | placeholder m => simp only [stepsFrom, List.mem_map]
  | block m a =>
    obtain ⟨graph, b, hgraph, hb, rfl⟩ := h.blockAt?_eq_some hn
    simp only [stepsFrom, Store.successors, hgraph, hb, List.mem_append, List.mem_map]
    refine or_iff_right ?_
    rintro ⟨edge, -, rfl⟩
    exact hs rfl

/-- A call leads from a node to another if an execution has such a step, otherwise than inside a
method. -/
theorem Store.WellFormed.hasCall_iff (h : g.WellFormed p) (hn : n ∈ g.nodes) :
    g.HasCall n n' ↔ ∃ s ∈ g.stepsFrom p n, s.target = n' ∧ s.kind ≠ .intra := by
  constructor
  · rintro ⟨e, he, hsource, rfl⟩
    have hkind : StepKind.inter e.kind ≠ .intra := nofun
    refine ⟨⟨e.site, .inter e.kind, e.target⟩, ?_, rfl, hkind⟩
    exact (h.mem_stepsFrom_iff hn hkind).mpr ⟨e, mem_callsFrom.mpr ⟨he, hsource⟩, rfl⟩
  · rintro ⟨s, hs, rfl, hkind⟩
    obtain ⟨e, he, rfl⟩ := (h.mem_stepsFrom_iff hn hkind).mp hs
    obtain ⟨hmem, hsource⟩ := mem_callsFrom.mp he
    exact ⟨e, hmem, hsource, rfl⟩

/-! ## Paths -/

variable {select : MethodRef → Bool}

theorem Store.WellFormed.proceedsWithin_of_hasCall (h : g.WellFormed p) (hcall : g.HasCall n n') :
    g.ProceedsWithin p select n n' := by
  obtain ⟨s, hs, htarget, hkind⟩ := (h.hasCall_iff (mem_nodes_of_hasCall hcall).1).mp hcall
  exact ⟨s, hs, htarget, fun hintra => absurd hintra hkind⟩

/-- One step back along a path: what follows a node decides about the node. -/
theorem Store.WellFormed.leadsTo_of_proceedsWithin (h : g.WellFormed p) (hn : n ∈ g.nodes)
    (hstep : g.ProceedsWithin p select n n')
    (hnext : n' ∈ g.nodes → g.LeadsTo (fun n => select n.method) n') :
    g.LeadsTo (fun n => select n.method) n := by
  obtain ⟨s, hs, rfl, hselect⟩ := hstep
  by_cases hintra : s.kind = .intra
  · -- the method matches, hence so does the node that the path has come to
    exact leadsTo_of_accept hn (hselect hintra)
  · have hcall : g.HasCall n s.target := (h.hasCall_iff hn).mpr ⟨s, hs, rfl, hintra⟩
    exact (hnext (mem_nodes_of_hasCall hcall).2).head hcall

/-- **A path to a match amounts to a path of calls**, if it passes from block to block only inside
methods that match: there it has already come to a match. -/
theorem Store.WellFormed.exists_proceedsWithin_iff (h : g.WellFormed p) (hn : n ∈ g.nodes) :
    (∃ n', select n'.method = true ∧ Relation.ReflTransGen (g.ProceedsWithin p select) n n') ↔
      g.LeadsTo (fun n => select n.method) n := by
  constructor
  · rintro ⟨n', hselect, hpath⟩
    induction hpath using Relation.ReflTransGen.head_induction_on with
    | refl => exact leadsTo_of_accept hn hselect
    | head hstep _ ih => exact h.leadsTo_of_proceedsWithin hn hstep ih
  · rintro ⟨n', -, hselect, hpath⟩
    exact ⟨n', hselect, hpath.lift id fun _ _ => h.proceedsWithin_of_hasCall⟩

/-- **What a filter by methods keeps** of a graph that was built, linked and filtered: the nodes
from which an execution path leads to a match and passes from block to block only inside methods
that match. -/
theorem mem_nodes_filter_iff_proceedsWithin (hg : Derives p g.toStore) (select : MethodRef → Bool)
    (hn : n ∈ g.nodes) :
    n ∈ (g.filter fun n => select n.method).nodes ↔
      ∃ n', select n'.method = true ∧ Relation.ReflTransGen (g.ProceedsWithin p select) n n' := by
  have hwf := hg.wellFormed
  rw [mem_nodes_filter, hwf.exists_proceedsWithin_iff hn]

/-! ## An example of a path that is cut -/

/-- The method `run` of a class. -/
def detourRun (owner : String) : MethodRef := ⟨owner, "run", "()V"⟩

/-- The method `run` of `Main` calls that of `Guard`, which either returns at once or first calls
that of `Vault`. -/
def detourImage : Image :=
  let guarded : List Instruction := [.plain .entry 2 (.branch ⟨4⟩),
    .plain ⟨2⟩ 2 (.invoke (detourRun "Vault")), .plain ⟨4⟩ 2 .return]
  Image.ofClasses
    [⟨"Main", none, [],
        [⟨"run", "()V", some ⟨[.plain .entry 2 (.invoke (detourRun "Guard"))], [], rfl⟩⟩], []⟩,
      ⟨"Guard", none, [], [⟨"run", "()V", some ⟨guarded, [], rfl⟩⟩], []⟩,
      ⟨"Vault", none, [], [.returning "run"], []⟩]

/-- The program of these classes. -/
def detourProgram : Program :=
  .ofNonempty detourImage .none (by decide +kernel)

/-- The call graph of the program. -/
def detourGraph : CallGraph := build detourProgram none

/-- The block of `Guard.run` that calls `Vault.run` is inside a method that matches. -/
theorem mem_nodes_filter_iff_proceedsWithin_guard :
    Derives detourProgram detourGraph.toStore ∧
      .block (detourRun "Main") .entry ∈ detourGraph.nodes ∧
      Relation.ReflTransGen (detourGraph.ProceedsWithin detourProgram (·.owner = "Guard"))
        (.block (detourRun "Main") .entry) (.block (detourRun "Guard") ⟨2⟩) ∧
      .block (detourRun "Main") .entry ∈
        (detourGraph.filter fun n => n.method.owner = "Guard").nodes := by
  have hderives : Derives detourProgram detourGraph.toStore := .build none
  have hmain : .block (detourRun "Main") .entry ∈ detourGraph.nodes := by decide +kernel
  have hcall : detourGraph.ProceedsWithin detourProgram (·.owner = "Guard")
      (.block (detourRun "Main") .entry) (.block (detourRun "Guard") .entry) := by decide +kernel
  have hinside : detourGraph.ProceedsWithin detourProgram (·.owner = "Guard")
      (.block (detourRun "Guard") .entry) (.block (detourRun "Guard") ⟨2⟩) := by decide +kernel
  have hpath := Relation.ReflTransGen.head hcall (.single hinside)
  exact ⟨hderives, hmain, hpath,
    (mem_nodes_filter_iff_proceedsWithin hderives (·.owner = "Guard") hmain).mpr ⟨_, rfl, hpath⟩⟩

/-- The way from `Main.run` to `Vault.run` passes from the entry of `Guard.run` to the block with
the call. The filter for `Vault` keeps that block, but neither of the nodes before it. -/
theorem path_cut_by_filter :
    .block (detourRun "Main") .entry ∈ detourGraph.nodes ∧
      .block (detourRun "Guard") .entry ∈ detourGraph.nodes ∧
      detourGraph.Proceeds detourProgram
        (.block (detourRun "Main") .entry) (.block (detourRun "Guard") .entry) ∧
      Relation.ReflTransGen (detourGraph.Proceeds detourProgram)
        (.block (detourRun "Guard") .entry) (.block (detourRun "Vault") .entry) ∧
      .block (detourRun "Guard") ⟨2⟩ ∈
        (detourGraph.filter fun n => n.method.owner = "Vault").nodes ∧
      .block (detourRun "Guard") .entry ∉
        (detourGraph.filter fun n => n.method.owner = "Vault").nodes ∧
      .block (detourRun "Main") .entry ∉
        (detourGraph.filter fun n => n.method.owner = "Vault").nodes := by
  have hinside : detourGraph.Proceeds detourProgram
      (.block (detourRun "Guard") .entry) (.block (detourRun "Guard") ⟨2⟩) := by decide +kernel
  have hcall : detourGraph.Proceeds detourProgram
      (.block (detourRun "Guard") ⟨2⟩) (.block (detourRun "Vault") .entry) := by decide +kernel
  have hpath := Relation.ReflTransGen.head hinside (.single hcall)
  exact ⟨by decide +kernel, by decide +kernel, by decide +kernel, hpath, by decide +kernel,
    by decide +kernel, by decide +kernel⟩

end CallAtlas.CallGraph
