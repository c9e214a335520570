import CallAtlas.CallGraph.Basic

/-!
# Statistics of a call graph

## Main definitions

* `Stats`, `CallGraph.stats`: the numbers of nodes, placeholders and edges, and of edges of each
  kind that occurs
* `Stats.text`: the statistics in words
-/

namespace CallAtlas

/-- Counters over a call graph. -/
structure Stats where
  nodes : Nat
  calls : Nat
  placeholders : Nat
  /-- The number of calls of each kind that occurs, in the order of the kinds. -/
  perKind : List (CallKind × Nat)
deriving DecidableEq, Inhabited

/-- The statistics of a graph. -/
def CallGraph.stats (g : CallGraph) : Stats where
  nodes := g.nodeCount
  calls := g.callCount
  placeholders := g.placeholderCount
  perKind := CallKind.all.filterMap fun kind =>
    let count := g.calls.countP (·.kind = kind)
    if count = 0 then none else some (kind, count)

/-- The statistics in words. -/
def Stats.text (s : Stats) : String :=
  Text.decimal s.nodes ++ " nodes (" ++ Text.decimal s.placeholders ++ " placeholders), "
    ++ Text.decimal s.calls ++ " edges"
    ++ String.join (s.perKind.map fun (kind, count) =>
      ", " ++ kind.text ++ ": " ++ Text.decimal count)

end CallAtlas
