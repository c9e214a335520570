import CallAtlas.CallGraph.Basic

/-!
# Filtering a call graph

A graph is reduced to the nodes from which a node of interest can be reached, with the calls
between them. The nodes that stay are numbered anew, from zero on in the order in which they stood,
their edges are taken to the new numbers, and the index is made anew from the labels.

## Main definitions

* `CallGraph.positions`: the position of each element of a list
* `CallGraph.Store.retain`: the part of a store with some of its nodes
* `CallGraph.Store.leadingTo`: the nodes from which a node of interest can be reached
* `CallGraph.Store.filter`, `CallGraph.filter`: the part with these nodes

## Main results

* `CallGraph.getElem?_positions`: positions are those of a list without repetition
* `CallGraph.Store.Consistent.retain`: labels and index are in step after the nodes are renumbered
-/

namespace CallAtlas.CallGraph

section Positions

variable {α : Type} [Ord α] [Std.TransOrd α]

/-- The position of each element of a list; of two positions the later counts. -/
def positions (xs : List α) : Std.ExtTreeMap α Nat := .ofList xs.zipIdx

theorem getElem?_positions [Std.LawfulEqOrd α] {xs : List α} (h : xs.Nodup) {x : α} {i : Nat} :
    (positions xs)[x]? = some i ↔ xs[i]? = some x := by
  have hdistinct : xs.zipIdx.Pairwise fun a b => ¬ compare a.1 b.1 = .eq := by
    have hfst : (xs.zipIdx.map Prod.fst).Nodup := by
      rw [List.zipIdx_map_fst]
      exact h
    refine (List.pairwise_map.mp hfst).imp ?_
    intro a b hne heq
    exact hne (Std.LawfulEqOrd.compare_eq_iff_eq.mp heq)
  have hat : ∀ j : Nat, xs[j]? = some x → (positions xs)[x]? = some j := by
    intro j hj
    exact Std.ExtTreeMap.getElem?_ofList_of_mem Std.ReflOrd.compare_self hdistinct
      (List.mk_mem_zipIdx_iff_getElem?.mpr hj)
  refine ⟨fun hi => ?_, hat i⟩
  have hmem : x ∈ xs := by
    classical
    have hkey : x ∈ positions xs := by
      rw [Std.ExtTreeMap.mem_iff_isSome_getElem?, hi]
      rfl
    simpa [positions, Std.ExtTreeMap.mem_ofList, List.zipIdx_map_fst] using hkey
  obtain ⟨j, hj⟩ := List.mem_iff_getElem?.mp hmem
  obtain rfl : j = i := Option.some.inj ((hat j hj).symm.trans hi)
  exact hj

end Positions

/-- The edge between the new numbers of its ends; none if one of them has no new number. -/
def Edge.renumber? (places : Std.ExtTreeMap Nat Nat) (e : Edge) : Option Edge := do
  return { e with source := ← places[e.source]?, target := ← places[e.target]? }

theorem Edge.renumber?_eq_some_iff {places : Std.ExtTreeMap Nat Nat} {e e' : Edge} :
    e.renumber? places = some e' ↔ places[e.source]? = some e'.source ∧
      places[e.target]? = some e'.target ∧ e.site = e'.site ∧ e.kind = e'.kind := by
  obtain ⟨source, target, site, kind⟩ := e'
  simp only [renumber?, Option.bind_eq_bind, Option.bind_eq_some_iff, Option.pure_def,
    Option.some.injEq, Edge.mk.injEq]
  constructor
  · rintro ⟨_, hsource, _, htarget, rfl, rfl, hsite, hkind⟩
    exact ⟨hsource, htarget, hsite, hkind⟩
  · rintro ⟨hsource, htarget, hsite, hkind⟩
    exact ⟨source, hsource, target, htarget, rfl, rfl, hsite, hkind⟩

namespace Store

/-- The nodes of a store whose numbers are kept, with these numbers, in order. -/
def kept (s : Store) (keep : Nat → Bool) : List (CallNode × Nat) :=
  s.labels.toList.zipIdx.filter fun x => keep x.2

/-- The new numbers of the nodes whose numbers are kept, by the old ones. -/
def places (s : Store) (keep : Nat → Bool) : Std.ExtTreeMap Nat Nat :=
  positions ((s.kept keep).map (·.2))

/-- The part of a store with the nodes whose numbers are kept. They are numbered anew, in order. -/
def retain (s : Store) (keep : Nat → Bool) : Store :=
  let labels := (s.kept keep).map (·.1)
  let numbers := positions labels
  { labels := labels.toArray
    numbers
    edges := s.edges.filterMap (·.renumber? (s.places keep))
    resolved := s.resolved.filter fun r => numbers.contains (.block r.caller r.block)
    entries := s.entries.filter numbers.contains }

/-- The numbers of the sources of the calls into a node. -/
def callers (s : Store) (i : Nat) : List Nat :=
  (s.edges.toList.filter (·.target = i)).map (·.source)

/-- The numbers of the nodes from which a node that satisfies `accept` can be reached, these nodes
first. -/
def leadingTo (s : Store) (accept : CallNode → Bool) : List Nat :=
  let roots := (s.labels.toList.zipIdx.filter fun x => accept x.1).map (·.2)
  roots ++ Search.beyond s.callers s.nodeCount roots

/-- The part of a store with the nodes from which a node that satisfies `accept` can be reached. -/
def filter (s : Store) (accept : CallNode → Bool) : Store :=
  s.retain (Std.ExtTreeSet.ofList (s.leadingTo accept)).contains

/-! ## Renumbering -/

variable {s : Store} {keep : Nat → Bool} {n : CallNode} {i j : Nat}

theorem nodup_numbers_kept (s : Store) (keep : Nat → Bool) : ((s.kept keep).map (·.2)).Nodup := by
  have hsub : ((s.kept keep).map (·.2)).Sublist (s.labels.toList.zipIdx.map (·.2)) :=
    List.filter_sublist.map _
  refine hsub.nodup ?_
  rw [List.zipIdx_map_snd]
  exact List.nodup_range'

theorem Consistent.nodup_labels_kept (h : s.Consistent) (keep : Nat → Bool) :
    ((s.kept keep).map (·.1)).Nodup := by
  have hsub : ((s.kept keep).map (·.1)).Sublist (s.labels.toList.zipIdx.map (·.1)) :=
    List.filter_sublist.map _
  refine hsub.nodup ?_
  rw [List.zipIdx_map_fst]
  exact h.nodup_nodes

/-- The new number of a node is its place among those that are kept. -/
theorem getElem?_places :
    (s.places keep)[i]? = some j ↔ ∃ n, (s.kept keep)[j]? = some (n, i) := by
  rw [places, getElem?_positions (s.nodup_numbers_kept keep), List.getElem?_map,
    Option.map_eq_some_iff]
  constructor
  · rintro ⟨⟨n, _⟩, hj, rfl⟩
    exact ⟨n, hj⟩
  · rintro ⟨n, hj⟩
    exact ⟨(n, i), hj, rfl⟩

/-- **Renumbering keeps labels and index in step.** -/
theorem Consistent.retain (h : s.Consistent) (keep : Nat → Bool) : (s.retain keep).Consistent := by
  refine ⟨fun n i => ?_, fun e' he' => ?_⟩
  · rw [Store.retain, getElem?_positions (h.nodup_labels_kept keep), List.getElem?_toArray]
  · have hbound : ∀ i j : Nat, (s.places keep)[i]? = some j →
        j < (s.retain keep).labels.size := by
      intro i j hj
      obtain ⟨n, hn⟩ := getElem?_places.mp hj
      rw [Store.retain, List.size_toArray, List.length_map]
      exact (List.getElem?_eq_some_iff.mp hn).1
    obtain ⟨e, -, he⟩ := Array.mem_filterMap.mp he'
    obtain ⟨hsource, htarget, -, -⟩ := Edge.renumber?_eq_some_iff.mp he
    exact ⟨hbound _ _ hsource, hbound _ _ htarget⟩

end Store

/-- The graph induced by the nodes from which a node that satisfies `accept` can be reached. -/
def filter (g : CallGraph) (accept : CallNode → Bool) : CallGraph :=
  ⟨g.toStore.filter accept, g.consistent.retain _⟩

end CallAtlas.CallGraph
