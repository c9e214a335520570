import CallAtlas.CallGraph.Store

/-!
# Call graphs

A call graph holds nodes, the calls between them in the order in which they were found, the methods
that call sites were resolved to, and the first callbacks of the linked components. It is a store in
which labels and index are in step.

## Main definitions

* `CallGraph`: a consistent store
* `CallGraph.empty`: the graph without node
-/

namespace CallAtlas

/-- Nodes and the calls between them. -/
structure CallGraph extends CallGraph.Store where
  consistent : toStore.Consistent

namespace CallGraph

/-- The graph without node. -/
def empty : CallGraph := ⟨.empty, Store.consistent_empty⟩

instance : Inhabited CallGraph := ⟨empty⟩

end CallGraph

end CallAtlas
