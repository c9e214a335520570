import CallAtlas.Proofs.Numbering
import CallAtlas.Proofs.Search

/-!
# What a filter keeps

Filtering searches backwards from the numbers of the nodes of interest, along the edges into what
was found. The search is complete, whatever cycles the graph has and however many nodes of interest
share what leads to them: it finds exactly the nodes from which a path of calls leads to a node of
interest. What is kept beside the nodes is everything of the graph that lies between or at them.

## Main definitions

* `CallGraph.LeadsTo`: a path of calls leads from a node to a node of interest

## Main results

* `CallGraph.LeadsTo.head`, `CallGraph.LeadsTo.cases_head`: one step of such a path
* `CallGraph.reflTransGen_callers`: the ways of the search are such paths, read backwards
* `CallGraph.mem_leadingTo`: the search finds the nodes with such a path
* `CallGraph.filter_eq_induced`: a filtered graph is the part of the graph that these nodes induce
-/

namespace CallAtlas.CallGraph

variable {g : CallGraph} {accept : CallNode → Bool} {n m : CallNode}

/-! ## Paths to a node of interest -/

/-- A path of calls, possibly empty, leads from a node to one that satisfies `accept`. -/
def LeadsTo (g : CallGraph) (accept : CallNode → Bool) (n : CallNode) : Prop :=
  ∃ m ∈ g.nodes, accept m = true ∧ Relation.ReflTransGen g.HasCall n m

theorem leadsTo_of_accept (hn : n ∈ g.nodes) (haccept : accept n = true) : g.LeadsTo accept n :=
  ⟨n, hn, haccept, .refl⟩

theorem LeadsTo.head (h : g.LeadsTo accept m) (hcall : g.HasCall n m) : g.LeadsTo accept n := by
  obtain ⟨o, ho, haccept, hpath⟩ := h
  exact ⟨o, ho, haccept, .head hcall hpath⟩

/-- A node of interest is at hand, or one call ahead something leads to it. -/
theorem LeadsTo.cases_head (h : g.LeadsTo accept n) :
    (n ∈ g.nodes ∧ accept n = true) ∨ ∃ m, g.HasCall n m ∧ g.LeadsTo accept m := by
  obtain ⟨o, ho, haccept, hpath⟩ := h
  rcases hpath.cases_head with rfl | ⟨m, hcall, hpath⟩
  · exact .inl ⟨ho, haccept⟩
  · exact .inr ⟨m, hcall, o, ho, haccept, hpath⟩

/-- What leads to a node of the graph is in the graph. -/
theorem LeadsTo.mem_nodes (h : g.LeadsTo accept n) : n ∈ g.nodes := by
  rcases h.cases_head with ⟨hn, -⟩ | ⟨m, hcall, -⟩
  · exact hn
  · exact (mem_nodes_of_hasCall hcall).1

/-! ## The backward search -/

variable {i j : Nat}

/-- One step of the search goes up an edge. -/
theorem step_callers :
    Search.Step g.callers i j ↔ ∃ e ∈ g.edges, e.source = j ∧ e.target = i := by
  simp only [Search.Step, Store.callers, List.mem_map, List.mem_filter, Array.mem_toList_iff,
    decide_eq_true_eq]
  constructor
  · rintro ⟨e, ⟨he, htarget⟩, hsource⟩
    exact ⟨e, he, hsource, htarget⟩
  · rintro ⟨e, he, hsource, htarget⟩
    exact ⟨e, ⟨he, htarget⟩, hsource⟩

/-- The way of the search from number to number is a path of calls, read backwards. -/
theorem reflTransGen_callers (hi : g.labels[i]? = some m) :
    Relation.ReflTransGen (Search.Step g.callers) i j ↔
      ∃ n, g.labels[j]? = some n ∧ Relation.ReflTransGen g.HasCall n m := by
  constructor
  · intro hpath
    induction hpath with
    | refl => exact ⟨m, hi, .refl⟩
    | tail _ hstep ih =>
      obtain ⟨n, hn, hpath⟩ := ih
      obtain ⟨e, he, rfl, rfl⟩ := step_callers.mp hstep
      obtain ⟨c, hc⟩ := g.consistent.exists_call? he
      obtain ⟨hsource, htarget, -, -⟩ := Store.call?_eq_some_iff.mp hc
      have hn' : c.target = n := Option.some.inj (htarget.symm.trans hn)
      exact ⟨c.source, hsource, .head ⟨c, Store.mem_calls.mpr ⟨e, he, hc⟩, rfl, hn'⟩ hpath⟩
  · rintro ⟨n, hn, hpath⟩
    induction hpath using Relation.ReflTransGen.head_induction_on generalizing j with
    | refl =>
      obtain rfl := g.consistent.eq_of_label hi hn
      exact .refl
    | head hcall _ ih =>
      obtain ⟨c, hc, rfl, rfl⟩ := hcall
      obtain ⟨e, he, hc⟩ := Store.mem_calls.mp hc
      obtain ⟨hsource, htarget, -, -⟩ := Store.call?_eq_some_iff.mp hc
      obtain rfl := g.consistent.eq_of_label hsource hn
      exact .tail (ih htarget) (step_callers.mpr ⟨e, he, rfl, rfl⟩)

/-- **The search is complete**: it finds exactly the nodes that lead to a node of interest. -/
theorem mem_leadingTo :
    i ∈ g.leadingTo accept ↔ ∃ n, g.labels[i]? = some n ∧ g.LeadsTo accept n := by
  have hroots : ∀ j, j ∈ (g.labels.toList.zipIdx.filter fun x => accept x.1).map (·.2) ↔
      ∃ n, g.labels[j]? = some n ∧ accept n = true := by
    intro j
    simp only [List.mem_map, List.mem_filter, Prod.exists, List.mk_mem_zipIdx_iff_getElem?,
      Array.getElem?_toList, exists_eq_right]
  -- callers have numbers, so there are at most as many levels as nodes
  have hnumbers : ∀ x y, Search.Step g.callers x y → y ∈ List.range g.nodeCount := by
    intro x y hstep
    obtain ⟨e, he, rfl, -⟩ := step_callers.mp hstep
    exact List.mem_range.mpr (g.consistent.ends e he).1
  rw [Store.leadingTo, List.mem_append, Search.mem_beyond hnumbers List.length_range.le]
  constructor
  · rintro (hroot | ⟨-, j, hroot, hpath⟩)
    · obtain ⟨n, hn, haccept⟩ := (hroots i).mp hroot
      exact ⟨n, hn, leadsTo_of_accept (Store.mem_nodes.mpr ⟨i, hn⟩) haccept⟩
    · obtain ⟨m, hm, haccept⟩ := (hroots j).mp hroot
      obtain ⟨n, hn, hpath⟩ := (reflTransGen_callers hm).mp hpath
      exact ⟨n, hn, m, Store.mem_nodes.mpr ⟨j, hm⟩, haccept, hpath⟩
  · rintro ⟨n, hn, m, hm, haccept, hpath⟩
    obtain ⟨j, hm⟩ := Store.mem_nodes.mp hm
    -- the search does not list its starting points again, even on a cycle
    rw [or_iff_not_imp_left]
    exact fun hroot => ⟨hroot, j, (hroots j).mpr ⟨m, hm, haccept⟩,
      (reflTransGen_callers hm).mpr ⟨n, hn, hpath⟩⟩

/-- The numbers that are kept are those of the nodes that lead to a node of interest. -/
theorem keeps_leadingTo :
    g.keeps (Std.ExtTreeSet.ofList (g.leadingTo accept)).contains n = true ↔
      g.LeadsTo accept n := by
  simp only [Store.keeps, Option.any_eq_true, Std.ExtTreeSet.contains_iff_mem, Search.mem_ofList,
    mem_leadingTo, g.consistent.inverse]
  constructor
  · rintro ⟨i, hi, n', hn', hleads⟩
    rwa [Option.some.inj (hi.symm.trans hn')]
  · intro hleads
    obtain ⟨i, hi⟩ := Store.mem_nodes.mp hleads.mem_nodes
    exact ⟨i, hi, n, hi, hleads⟩

instance (g : CallGraph) (accept : CallNode → Bool) (n : CallNode) :
    Decidable (g.LeadsTo accept n) :=
  decidable_of_bool _ keeps_leadingTo

/-! ## The graph that is kept -/

theorem mem_nodes_filter : n ∈ (g.filter accept).nodes ↔ g.LeadsTo accept n :=
  g.consistent.mem_nodes_retain.trans keeps_leadingTo

theorem keeps_eq_decide (g : CallGraph) (accept : CallNode → Bool) (n : CallNode) :
    g.keeps (Std.ExtTreeSet.ofList (g.leadingTo accept)).contains n =
      decide (g.LeadsTo accept n) := by
  rw [Bool.eq_iff_iff, decide_eq_true_iff]
  exact keeps_leadingTo

/-- **A filtered graph is the part that leads to a node of interest**: its nodes are those from
which a path of calls leads to such a node; its calls are the calls between them, its resolved calls
those out of them, and its entries those among them, each as often and in the order as before. -/
theorem filter_eq_induced (g : CallGraph) (accept : CallNode → Bool) :
    (∀ n, n ∈ (g.filter accept).nodes ↔ g.LeadsTo accept n) ∧
      (g.filter accept).calls =
        g.calls.filter (fun c => g.LeadsTo accept c.source ∧ g.LeadsTo accept c.target) ∧
      (g.filter accept).resolved =
        g.resolved.filter (fun r => g.LeadsTo accept (.block r.caller r.block)) ∧
      (g.filter accept).entries = g.entries.filter (fun n => g.LeadsTo accept n) := by
  have hindex : ∀ n, (g.filter accept).numbers.contains n = decide (g.LeadsTo accept n) :=
    fun n => g.consistent.contains_numbers_retain.trans (g.keeps_eq_decide accept n)
  refine ⟨fun n => mem_nodes_filter, ?_, ?_, ?_⟩
  · refine (g.consistent.calls_retain _).trans ?_
    simp only [keeps_eq_decide, Bool.decide_and]
  · refine List.filter_congr fun r _ => ?_
    exact hindex (.block r.caller r.block)
  · refine List.filter_congr fun n _ => ?_
    exact hindex n

end CallAtlas.CallGraph
