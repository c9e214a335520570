import CallAtlas.CallGraph.Node
import CallAtlas.Program

/-!
# Numbered nodes

A call graph keeps its nodes by number, from zero on in the order in which they came, and its calls
as edges between numbers. An index leads from a label back to its number. Labels and index are
changed by hand, each time a node comes, and have to stay in step: the index leads from every label
to the node that has it, and from nothing else.

## Main definitions

* `CallGraph.Edge`, `CallGraph.Store`: edges between numbers; labels, index, edges and what is
  recorded beside them
* `CallGraph.Store.number`: the number of a node, which is added if it is new
* `CallGraph.Store.addCall`, `CallGraph.Store.addCalls`: a store extended by calls and their ends
* `CallGraph.Store.nodes`, `CallGraph.Store.calls`: the labels of the nodes, the calls between them
* `CallGraph.Store.callsFrom`, `CallGraph.Store.callsTo`: the calls at a node, in order
* `CallGraph.Store.successors`: the steps out of a block, inside its method and to other nodes
* `CallGraph.Store.exportLines`: one line for each call, sorted
* `CallGraph.Store.Consistent`: labels and index are in step, and edges join nodes

## Main results

* `CallGraph.Store.number_cases`: a node keeps its number, or gets the next one
* `CallGraph.Store.Consistent.number`, `CallGraph.Store.Consistent.addCalls`: adding nodes and calls
  keeps labels and index in step
-/

namespace CallAtlas.CallGraph

/-- A call between numbered nodes. -/
structure Edge where
  source : Nat
  target : Nat
  /-- The offset of the call in its caller. -/
  site : Offset
  kind : CallKind
deriving DecidableEq, Inhabited

/-- Numbered nodes and the edges between them. -/
structure Store where
  /-- The labels of the nodes, by number. -/
  labels : Array CallNode
  /-- The index: the number of each label. -/
  numbers : Std.ExtTreeMap CallNode Nat
  /-- The edges, in the order in which they were found. -/
  edges : Array Edge
  /-- The call sites with the methods they resolve to, also those without a body. -/
  resolved : List ResolvedCall
  /-- The first lifecycle callbacks of the linked components, in linking order. -/
  entries : List CallNode

namespace Store

/-- The store without node. -/
def empty : Store := ⟨#[], ∅, #[], [], []⟩

/-! ## Adding calls -/

/-- The number of a node, and the store in which the node has it: a known node keeps its number, and
a new one gets the next. -/
def number (s : Store) (n : CallNode) : Nat × Store :=
  match s.numbers[n]? with
  | some i => (i, s)
  | none =>
    let i := s.labels.size
    (i, { s with labels := s.labels.push n, numbers := s.numbers.insert n i })

/-- The store extended by an edge. -/
def addEdge (s : Store) (e : Edge) : Store := { s with edges := s.edges.push e }

/-- The store extended by a call, whose source is numbered before its target. -/
def addCall (s : Store) (c : Call) : Store :=
  let (source, s) := s.number c.source
  let (target, s) := s.number c.target
  s.addEdge ⟨source, target, c.site, c.kind⟩

/-- The store extended by some calls, one after the other. -/
def addCalls (s : Store) (calls : List Call) : Store := calls.foldl addCall s

/-! ## Reading a store -/

/-- The labels of the nodes, by number. -/
def nodes (s : Store) : List CallNode := s.labels.toList

/-- The nodes that the index knows, in order. -/
def nodeList (s : Store) : List CallNode := s.numbers.keys

/-- Whether the index knows a node. -/
def containsNode (s : Store) (n : CallNode) : Bool := s.numbers.contains n

/-- The number of nodes. -/
def nodeCount (s : Store) : Nat := s.labels.size

/-- The number of placeholders. -/
def placeholderCount (s : Store) : Nat := (s.nodeList.filter (·.isPlaceholder)).length

/-- The call that an edge stands for. -/
def call? (s : Store) (e : Edge) : Option Call := do
  return ⟨← s.labels[e.source]?, ← s.labels[e.target]?, e.site, e.kind⟩

/-- The calls, in the order in which they were found. -/
def calls (s : Store) : List Call := s.edges.toList.filterMap s.call?

/-- The number of calls. -/
def callCount (s : Store) : Nat := s.edges.size

/-- A call leads from a node to another. -/
def HasCall (s : Store) (n m : CallNode) : Prop := ∃ c ∈ s.calls, c.source = n ∧ c.target = m

instance (s : Store) (n m : CallNode) : Decidable (s.HasCall n m) :=
  inferInstanceAs (Decidable (∃ c ∈ s.calls, c.source = n ∧ c.target = m))

/-- The calls whose edges have a node at the given end, in order. -/
def callsAt (s : Store) (side : Edge → Nat) (n : CallNode) : List Call :=
  match s.numbers[n]? with
  | none => []
  | some i => (s.edges.toList.filter (side · = i)).filterMap s.call?

/-- The calls out of a node, in order. -/
def callsFrom (s : Store) : CallNode → List Call := s.callsAt (·.source)

/-- The calls into a node, in order. -/
def callsTo (s : Store) : CallNode → List Call := s.callsAt (·.target)

/-- The steps out of the block of a method that contains an offset: first those inside the method,
then the calls. -/
def successors (s : Store) (p : Program) (m : MethodRef) (a : Offset) : List Step :=
  match p.graph? m with
  | none => []
  | some graph =>
    match graph.blockAt? a with
    | none => []
    | some b =>
      ((graph.successors b.start).map fun e => ⟨e.site, .intra, .block m e.dest⟩)
        ++ (s.callsFrom (.block m b.start)).map fun c => ⟨c.site, .inter c.kind, c.target⟩

/-- The line of a call: the quoted identifiers of its ends, joined by an arrow. -/
def exportLine (c : Call) : String :=
  "\"" ++ c.source.id ++ "\" -> \"" ++ c.target.id ++ "\""

/-- One line for each call, sorted. -/
def exportLines (s : Store) : List String :=
  (s.calls.map exportLine).mergeSort fun a b => compare a b != .gt

/-- The export as a text in which every line is ended. -/
def exportText (s : Store) : String :=
  String.join (s.exportLines.map (· ++ "\n"))

/-! ## Labels and index in step -/

/-- The index leads from a label to the node that has it, and from nothing else, and edges join
nodes. -/
structure Consistent (s : Store) : Prop where
  inverse : ∀ (n : CallNode) (i : Nat), s.numbers[n]? = some i ↔ s.labels[i]? = some n
  ends : ∀ e ∈ s.edges, e.source < s.labels.size ∧ e.target < s.labels.size

variable {s : Store} {n m : CallNode} {i : Nat} {c : Call} {e : Edge} {calls : List Call}

theorem consistent_empty : empty.Consistent where
  inverse n i := by simp [empty]
  ends e he := by simp [empty] at he

theorem mem_nodes : n ∈ s.nodes ↔ ∃ i : Nat, s.labels[i]? = some n := by
  rw [nodes, Array.mem_toList_iff, Array.mem_iff_getElem?]

/-- No label stands for two nodes. -/
theorem Consistent.nodup_nodes (h : s.Consistent) : s.nodes.Nodup := by
  rw [List.nodup_iff_pairwise_ne, List.pairwise_iff_getElem]
  intro i j hi hj hlt heq
  have hlabel : ∀ (k : Nat) (hk : k < s.nodes.length), s.numbers[s.nodes[k]]? = some k := by
    intro k hk
    rw [h.inverse, ← Array.getElem?_toList]
    exact List.getElem?_eq_getElem hk
  have hsame := (hlabel i hi).symm.trans ((congrArg (s.numbers[·]?) heq).trans (hlabel j hj))
  exact Nat.ne_of_lt hlt (Option.some.inj hsame)

/-- The index knows the labels of the nodes. -/
theorem Consistent.containsNode_iff (h : s.Consistent) :
    s.containsNode n = true ↔ n ∈ s.nodes := by
  rw [containsNode, Std.ExtTreeMap.contains_eq_isSome_getElem?, Option.isSome_iff_exists, mem_nodes]
  simp only [h.inverse]

theorem Consistent.mem_nodeList (h : s.Consistent) : n ∈ s.nodeList ↔ n ∈ s.nodes := by
  rw [nodeList, Std.ExtTreeMap.mem_keys, ← Std.ExtTreeMap.contains_iff_mem]
  exact h.containsNode_iff

/-! ## What adding a node does -/

/-- A node keeps its number, or gets the next one. -/
theorem number_cases (s : Store) (n : CallNode) :
    (∃ i, s.numbers[n]? = some i ∧ s.number n = (i, s)) ∨
      s.numbers[n]? = none ∧ s.number n = (s.labels.size,
        { s with labels := s.labels.push n, numbers := s.numbers.insert n s.labels.size }) := by
  rw [number]
  cases hn : s.numbers[n]? with
  | some i => exact .inl ⟨i, rfl, rfl⟩
  | none => exact .inr ⟨rfl, rfl⟩

@[simp] theorem edges_number (s : Store) (n : CallNode) : (s.number n).2.edges = s.edges := by
  rcases s.number_cases n with ⟨i, -, heq⟩ | ⟨-, heq⟩ <;> rw [heq]

@[simp] theorem resolved_number (s : Store) (n : CallNode) :
    (s.number n).2.resolved = s.resolved := by
  rcases s.number_cases n with ⟨i, -, heq⟩ | ⟨-, heq⟩ <;> rw [heq]

@[simp] theorem entries_number (s : Store) (n : CallNode) : (s.number n).2.entries = s.entries := by
  rcases s.number_cases n with ⟨i, -, heq⟩ | ⟨-, heq⟩ <;> rw [heq]

/-- The nodes that are there keep their labels. -/
theorem labels_number (hi : s.labels[i]? = some m) : (s.number n).2.labels[i]? = some m := by
  rcases s.number_cases n with ⟨j, -, heq⟩ | ⟨-, heq⟩
  · rw [heq]
    exact hi
  · have hlt : i < s.labels.size := (Array.getElem?_eq_some_iff.mp hi).1
    rw [heq, Array.getElem?_push, if_neg (Nat.ne_of_lt hlt)]
    exact hi

theorem size_labels_number (s : Store) (n : CallNode) :
    s.labels.size ≤ (s.number n).2.labels.size := by
  rcases s.number_cases n with ⟨i, -, heq⟩ | ⟨-, heq⟩
  · exact Nat.le_of_eq (by rw [heq])
  · rw [heq, Array.size_push]
    exact Nat.le_succ _

/-- The number that a node is given is that of the node with its label. -/
theorem Consistent.label_number (h : s.Consistent) (n : CallNode) :
    (s.number n).2.labels[(s.number n).1]? = some n := by
  rcases s.number_cases n with ⟨i, hi, heq⟩ | ⟨-, heq⟩
  · rw [heq]
    exact (h.inverse n i).mp hi
  · rw [heq, Array.getElem?_push_size]

/-- **Adding a node keeps labels and index in step.** -/
theorem Consistent.number (h : s.Consistent) (n : CallNode) : (s.number n).2.Consistent := by
  refine ⟨fun m i => ?_, fun e he => ?_⟩
  · rcases s.number_cases n with ⟨j, -, heq⟩ | ⟨hnone, heq⟩
    · rw [heq]
      exact h.inverse m i
    · rw [heq, Std.ExtTreeMap.getElem?_insert, Array.getElem?_push]
      simp only [Std.LawfulEqOrd.compare_eq_iff_eq]
      by_cases hm : n = m
      · -- the new label has no other node
        subst hm
        have hother : s.labels[i]? ≠ some n := by
          intro hi
          rw [← h.inverse, hnone] at hi
          cases hi
        by_cases hi : i = s.labels.size
        · simp [hi]
        · simp [hi, hother, Ne.symm hi]
      · rw [if_neg hm, h.inverse]
        by_cases hi : i = s.labels.size
        · simp [hi, hm]
        · rw [if_neg hi]
  · rw [edges_number] at he
    obtain ⟨hsource, htarget⟩ := h.ends e he
    have hle := s.size_labels_number n
    exact ⟨Nat.lt_of_lt_of_le hsource hle, Nat.lt_of_lt_of_le htarget hle⟩

theorem Consistent.addEdge (h : s.Consistent) (hsource : e.source < s.labels.size)
    (htarget : e.target < s.labels.size) : (s.addEdge e).Consistent := by
  refine ⟨h.inverse, fun e' he' => ?_⟩
  rcases Array.mem_push.mp he' with he' | rfl
  · exact h.ends e' he'
  · exact ⟨hsource, htarget⟩

theorem Consistent.addCall (h : s.Consistent) (c : Call) : (s.addCall c).Consistent := by
  have h₁ := h.number c.source
  have hsource := labels_number (n := c.target) (h.label_number c.source)
  exact (h₁.number c.target).addEdge (Array.getElem?_eq_some_iff.mp hsource).1
    (Array.getElem?_eq_some_iff.mp (h₁.label_number c.target)).1

/-- **Adding calls keeps labels and index in step.** -/
theorem Consistent.addCalls (h : s.Consistent) (calls : List Call) :
    (s.addCalls calls).Consistent := by
  induction calls generalizing s with
  | nil => exact h
  | cons c calls ih => exact ih (h.addCall c)

end Store

end CallAtlas.CallGraph
