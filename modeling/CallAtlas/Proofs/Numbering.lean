import CallAtlas.CallGraph.Build
import CallAtlas.CallGraph.Filter
import CallAtlas.CallGraph.Lifecycle
import Mathlib.Data.List.Basic

/-!
# Numbers and labels

A store is read through its labels: its nodes are the labels of the numbers in use, and an edge
between two numbers stands for the call between their labels. As long as labels and index are in
step, adding calls to a store adds them to those that are read from it, and leaving nodes out leaves
out their calls, although the other nodes get new numbers.

## Main definitions

* `CallGraph.Store.keeps`: whether the number of a label is kept

## Main results

* `CallGraph.Store.Consistent.calls_addCalls`, `CallGraph.Store.Consistent.mem_nodes_addCalls`: the
  calls and nodes of an extended store
* `CallGraph.Store.Consistent.calls_retain`, `CallGraph.Store.Consistent.mem_nodes_retain`: those of
  a store of which a part is kept
* `CallGraph.calls_build`, `CallGraph.calls_link`: the calls of a program and of components
* `CallGraph.mem_callsFrom`: the calls out of a node are found by its number
-/

namespace CallAtlas.CallGraph

namespace Store

variable {s : Store} {n m : CallNode} {i j : Nat} {c : Call} {e : Edge} {calls : List Call}
  {keep : Nat → Bool}

/-! ## Calls between labels -/

theorem call?_eq_some_iff :
    s.call? e = some c ↔ s.labels[e.source]? = some c.source ∧
      s.labels[e.target]? = some c.target ∧ e.site = c.site ∧ e.kind = c.kind := by
  obtain ⟨source, target, site, kind⟩ := c
  simp only [call?, Option.bind_eq_bind, Option.bind_eq_some_iff, Option.pure_def,
    Option.some.injEq, Call.mk.injEq]
  constructor
  · rintro ⟨_, hsource, _, htarget, rfl, rfl, hsite, hkind⟩
    exact ⟨hsource, htarget, hsite, hkind⟩
  · rintro ⟨hsource, htarget, hsite, hkind⟩
    exact ⟨source, hsource, target, htarget, rfl, rfl, hsite, hkind⟩

theorem mem_calls : c ∈ s.calls ↔ ∃ e ∈ s.edges, s.call? e = some c := by
  rw [Store.calls, List.mem_filterMap]
  simp only [Array.mem_toList_iff]

/-- The ends of a call are nodes. -/
theorem ends_mem_nodes (hc : c ∈ s.calls) : c.source ∈ s.nodes ∧ c.target ∈ s.nodes := by
  obtain ⟨e, -, he⟩ := mem_calls.mp hc
  obtain ⟨hsource, htarget, -, -⟩ := call?_eq_some_iff.mp he
  exact ⟨mem_nodes.mpr ⟨_, hsource⟩, mem_nodes.mpr ⟨_, htarget⟩⟩

/-- The index lists no node twice. -/
theorem nodup_nodeList (s : Store) : s.nodeList.Nodup :=
  Std.ExtTreeMap.nodup_keys

theorem calls_addEdge (hc : s.call? e = some c) : (s.addEdge e).calls = s.calls ++ [c] := by
  rw [Store.calls, addEdge, Array.toList_push, List.filterMap_append]
  exact congrArg _ (List.filterMap_cons_some hc)

/-- What is recorded beside nodes and edges stays as it is when calls are added. -/
theorem recorded_addCalls (s : Store) (calls : List Call) :
    (s.addCalls calls).resolved = s.resolved ∧ (s.addCalls calls).entries = s.entries := by
  induction calls generalizing s with
  | nil => exact ⟨rfl, rfl⟩
  | cons c calls ih =>
    obtain ⟨hresolved, hentries⟩ := ih (s.addCall c)
    constructor
    · refine hresolved.trans ?_
      simp [addCall, addEdge]
    · refine hentries.trans ?_
      simp [addCall, addEdge]

namespace Consistent

/-- Every edge stands for a call. -/
theorem exists_call? (h : s.Consistent) (he : e ∈ s.edges) : ∃ c, s.call? e = some c := by
  obtain ⟨hsource, htarget⟩ := h.ends e he
  exact ⟨⟨s.labels[e.source], s.labels[e.target], e.site, e.kind⟩, call?_eq_some_iff.mpr
    ⟨Array.getElem?_eq_getElem hsource, Array.getElem?_eq_getElem htarget, rfl, rfl⟩⟩

/-- A label has one number. -/
theorem eq_of_label (h : s.Consistent) (hi : s.labels[i]? = some n) (hj : s.labels[j]? = some n) :
    i = j := by
  rw [← h.inverse] at hi hj
  exact Option.some.inj (hi.symm.trans hj)

/-! ## Adding calls -/

theorem mem_nodes_number (h : s.Consistent) : m ∈ (s.number n).2.nodes ↔ m ∈ s.nodes ∨ m = n := by
  rcases s.number_cases n with ⟨i, hi, heq⟩ | ⟨-, heq⟩
  · rw [heq, or_iff_left_of_imp]
    rintro rfl
    exact mem_nodes.mpr ⟨i, (h.inverse m i).mp hi⟩
  · rw [heq, nodes, nodes, Array.toList_push, List.mem_append, List.mem_singleton]

theorem mem_nodes_addCall (h : s.Consistent) :
    n ∈ (s.addCall c).nodes ↔ n ∈ s.nodes ∨ n = c.source ∨ n = c.target := by
  change n ∈ ((s.number c.source).2.number c.target).2.nodes ↔ _
  rw [(h.number c.source).mem_nodes_number, h.mem_nodes_number, or_assoc]

/-- **The nodes of an extended store** are those that were there and the ends of the calls. -/
theorem mem_nodes_addCalls (h : s.Consistent) :
    n ∈ (s.addCalls calls).nodes ↔
      n ∈ s.nodes ∨ ∃ c ∈ calls, n = c.source ∨ n = c.target := by
  induction calls generalizing s with
  | nil => simp [Store.addCalls]
  | cons c calls ih =>
    change n ∈ ((s.addCall c).addCalls calls).nodes ↔ _
    rw [ih (h.addCall c), h.mem_nodes_addCall]
    simp [or_assoc]

/-- The edges that are there stand for the calls that they stood for. -/
theorem calls_number (h : s.Consistent) (n : CallNode) : (s.number n).2.calls = s.calls := by
  rw [Store.calls, edges_number, Store.calls]
  refine List.filterMap_congr fun e he => ?_
  obtain ⟨c, hc⟩ := h.exists_call? (Array.mem_toList_iff.mp he)
  obtain ⟨hsource, htarget, hrest⟩ := call?_eq_some_iff.mp hc
  rw [hc, call?_eq_some_iff]
  exact ⟨labels_number hsource, labels_number htarget, hrest⟩

theorem calls_addCall (h : s.Consistent) (c : Call) : (s.addCall c).calls = s.calls ++ [c] := by
  have h₁ := h.number c.source
  have hlast : ((s.number c.source).2.number c.target).2.call?
      ⟨(s.number c.source).1, ((s.number c.source).2.number c.target).1, c.site, c.kind⟩ = some c :=
    call?_eq_some_iff.mpr
      ⟨labels_number (h.label_number c.source), h₁.label_number c.target, rfl, rfl⟩
  rw [← h.calls_number c.source, ← h₁.calls_number c.target]
  exact calls_addEdge hlast

/-- **The calls of an extended store** are those that were there and then the new ones. -/
theorem calls_addCalls (h : s.Consistent) (calls : List Call) :
    (s.addCalls calls).calls = s.calls ++ calls := by
  induction calls generalizing s with
  | nil => simp [Store.addCalls]
  | cons c calls ih =>
    change ((s.addCall c).addCalls calls).calls = _
    rw [ih (h.addCall c), h.calls_addCall, List.append_assoc, List.singleton_append]

end Consistent

/-! ## Keeping a part -/

/-- Whether the number of a label is kept. -/
def keeps (s : Store) (keep : Nat → Bool) (n : CallNode) : Bool := s.numbers[n]?.any keep

theorem mem_kept : (n, i) ∈ s.kept keep ↔ s.labels[i]? = some n ∧ keep i = true := by
  rw [kept, List.mem_filter, List.mk_mem_zipIdx_iff_getElem?, Array.getElem?_toList]

/-- A node has a new number exactly if it is kept, and keeps its label. -/
theorem exists_place_iff (hi : s.labels[i]? = some n) :
    (∃ j, (s.places keep)[i]? = some j ∧ (s.retain keep).labels[j]? = some n) ↔
      keep i = true := by
  constructor
  · rintro ⟨j, hplace, -⟩
    obtain ⟨m, hm⟩ := getElem?_places.mp hplace
    exact (mem_kept.mp (List.mem_of_getElem? hm)).2
  · intro hkeep
    obtain ⟨j, hj⟩ := List.mem_iff_getElem?.mp (mem_kept.mpr ⟨hi, hkeep⟩)
    refine ⟨j, getElem?_places.mpr ⟨n, hj⟩, ?_⟩
    rw [retain, List.getElem?_toArray, List.getElem?_map, hj]
    rfl

namespace Consistent

theorem keeps_of_label (h : s.Consistent) (hi : s.labels[i]? = some n) :
    s.keeps keep n = keep i := by
  rw [keeps, (h.inverse n i).mpr hi, Option.any_some]

/-- **The nodes of the part that is kept** are those whose numbers are kept. -/
theorem mem_nodes_retain (h : s.Consistent) :
    n ∈ (s.retain keep).nodes ↔ s.keeps keep n = true := by
  have hnodes : n ∈ (s.retain keep).nodes ↔ ∃ i, (n, i) ∈ s.kept keep := by
    simp [nodes, Store.retain]
  rw [hnodes, keeps, Option.any_eq_true]
  simp only [mem_kept, h.inverse]

/-- The index of the part that is kept knows these nodes. -/
theorem contains_numbers_retain (h : s.Consistent) :
    (s.retain keep).numbers.contains n = s.keeps keep n := by
  rw [Bool.eq_iff_iff, ← h.mem_nodes_retain]
  exact (h.retain keep).containsNode_iff

/-- An edge between nodes that are kept stands for the call that it stood for. -/
theorem bind_renumber? (h : s.Consistent) (hc : s.call? e = some c) :
    (e.renumber? (s.places keep)).bind (s.retain keep).call? =
      if s.keeps keep c.source && s.keeps keep c.target then some c else none := by
  obtain ⟨hsource, htarget, hrest⟩ := call?_eq_some_iff.mp hc
  rw [h.keeps_of_label hsource, h.keeps_of_label htarget]
  split
  · next hkeep =>
    rw [Bool.and_eq_true] at hkeep
    obtain ⟨j, hj, hlabel⟩ := (exists_place_iff hsource).mpr hkeep.1
    obtain ⟨k, hk, hlabel'⟩ := (exists_place_iff htarget).mpr hkeep.2
    have hrenumber : e.renumber? (s.places keep) = some ⟨j, k, e.site, e.kind⟩ :=
      Edge.renumber?_eq_some_iff.mpr ⟨hj, hk, rfl, rfl⟩
    rw [hrenumber, Option.bind_some, call?_eq_some_iff]
    exact ⟨hlabel, hlabel', hrest⟩
  · next hkeep =>
    rw [Option.bind_eq_none_iff]
    intro e' he'
    obtain ⟨hj, hk, -, -⟩ := Edge.renumber?_eq_some_iff.mp he'
    obtain ⟨n, hn⟩ := getElem?_places.mp hj
    obtain ⟨m, hm⟩ := getElem?_places.mp hk
    refine absurd ?_ hkeep
    rw [(mem_kept.mp (List.mem_of_getElem? hn)).2, (mem_kept.mp (List.mem_of_getElem? hm)).2]
    rfl

/-- **The calls of the part that is kept** are those between nodes that are kept. -/
theorem calls_retain (h : s.Consistent) (keep : Nat → Bool) :
    (s.retain keep).calls =
      s.calls.filter fun c => s.keeps keep c.source && s.keeps keep c.target := by
  have hedges : (s.retain keep).edges.toList =
      s.edges.toList.filterMap (·.renumber? (s.places keep)) := by
    simp [Store.retain]
  rw [Store.calls, hedges, List.filterMap_filterMap, Store.calls, List.filter_filterMap]
  refine List.filterMap_congr fun e he => ?_
  obtain ⟨c, hc⟩ := h.exists_call? (Array.mem_toList_iff.mp he)
  rw [h.bind_renumber? hc, hc]
  rfl

end Consistent

end Store

variable {g : CallGraph} {n m : CallNode} {c : Call}

/-- The calls of a program are those of its call instructions. -/
theorem calls_build (p : Program) (table : Option RegistrationTable) :
    (build p table).calls = p.invocations.flatMap (p.callsOf table) :=
  Store.consistent_empty.calls_addCalls _

/-- Linking adds the calls of the components. -/
theorem calls_link (g : CallGraph) (p : Program) (components : ComponentTable) :
    (g.link p components).calls = g.calls ++ components.toList.flatMap p.lifecycleCalls :=
  g.consistent.calls_addCalls _

/-- Linking resolves nothing. -/
theorem resolved_link (g : CallGraph) (p : Program) (components : ComponentTable) :
    (g.link p components).resolved = g.resolved :=
  (g.toStore.recorded_addCalls _).1

theorem entries_build (p : Program) (table : Option RegistrationTable) :
    (build p table).entries = [] :=
  (Store.empty.recorded_addCalls _).2

theorem mem_nodes_of_hasCall (h : g.HasCall n m) : n ∈ g.nodes ∧ m ∈ g.nodes := by
  obtain ⟨c, hc, rfl, rfl⟩ := h
  exact Store.ends_mem_nodes hc

/-- The calls out of a node are found by its number. -/
theorem mem_callsFrom : c ∈ g.callsFrom n ↔ c ∈ g.calls ∧ c.source = n := by
  rw [Store.callsFrom, Store.callsAt, Store.mem_calls]
  cases hn : g.numbers[n]? with
  | none =>
    simp only [List.not_mem_nil, false_iff]
    rintro ⟨⟨e, -, he⟩, rfl⟩
    rw [(g.consistent.inverse _ _).mpr (Store.call?_eq_some_iff.mp he).1] at hn
    cases hn
  | some i =>
    have hi := (g.consistent.inverse n i).mp hn
    simp only [List.mem_filterMap, List.mem_filter, Array.mem_toList_iff, decide_eq_true_eq]
    constructor
    · rintro ⟨e, ⟨he, rfl⟩, hc⟩
      have hsource := (Store.call?_eq_some_iff.mp hc).1
      exact ⟨⟨e, he, hc⟩, Option.some.inj (hsource.symm.trans hi)⟩
    · rintro ⟨⟨e, he, hc⟩, rfl⟩
      have hsource := (Store.call?_eq_some_iff.mp hc).1
      exact ⟨e, ⟨he, g.consistent.eq_of_label hsource hi⟩, hc⟩

end CallAtlas.CallGraph
