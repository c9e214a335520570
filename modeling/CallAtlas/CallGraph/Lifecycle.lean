import CallAtlas.CallGraph.Basic
import CallAtlas.Component

/-!
# Lifecycles in the call graph

The platform starts a component by its first callback and takes it through the later ones. Each
component with a first callback gets edges from its entry placeholder to that callback, and from
the callbacks of a stage to those of the next stage that has any. Callbacks resolve like calls, so
an inherited callback counts. Lifecycle edges have no call site; their site is the entry offset.

## Main definitions

* `Program.stageNodes`: the callbacks of a component at each stage
* `Program.lifecycleCalls`: the edges of a component
* `CallGraph.Store.link`, `CallGraph.link`: a call graph extended by the lifecycles of some
  components
-/

namespace CallAtlas

namespace Program

/-- The entry block of a callback of a class; none when it is missing, has no body, or belongs to
the framework. -/
def callbackNode? (p : Program) (className : String) (callback : String × String) :
    Option CallNode :=
  match p.resolve ⟨className, callback.1, callback.2⟩ with
  | .method m => if p.hasEntry m then some (.block m .entry) else none
  | _ => none

/-- The callbacks of a component at each stage of its lifecycle. -/
def stageNodes (p : Program) (c : Component) : List (List CallNode) :=
  c.kind.stages.map fun stage => stage.filterMap (p.callbackNode? c.className)

/-- The callbacks that the platform starts a component with. -/
def firstNodes (p : Program) (c : Component) : List CallNode := (p.stageNodes c).headD []

/-- The edges from every node of a list to every node of another. -/
def stageCalls (sources targets : List CallNode) : List Call :=
  sources.flatMap fun s => targets.map fun t => ⟨s, t, .entry, .lifecycle⟩

/-- The edges from a stage to the first of the following ones, and so on. -/
def chainCalls : List CallNode → List (List CallNode) → List Call
  | _, [] => []
  | sources, targets :: rest => stageCalls sources targets ++ chainCalls targets rest

/-- The lifecycle edges of a component; none when it has no first callback. Stages without callback
are skipped. -/
def lifecycleCalls (p : Program) (c : Component) : List Call :=
  if p.firstNodes c = [] then []
  -- the first stage is among those kept, so the chain begins with it
  else chainCalls [c.entry] ((p.stageNodes c).filter (· ≠ []))

end Program

namespace CallGraph

/-- Adds to a list those nodes that it lacks, in order. -/
def addEntries (entries nodes : List CallNode) : List CallNode :=
  nodes.foldl (fun acc n => if acc.contains n then acc else acc ++ [n]) entries

/-- The store extended by the lifecycles of some components, in the order of their classes. -/
def Store.link (s : Store) (p : Program) (components : ComponentTable) : Store :=
  let store := s.addCalls (components.toList.flatMap p.lifecycleCalls)
  { store with entries := addEntries s.entries (components.toList.flatMap p.firstNodes) }

theorem Store.Consistent.link {s : Store} (h : s.Consistent) (p : Program)
    (components : ComponentTable) : (s.link p components).Consistent :=
  have h := h.addCalls (components.toList.flatMap p.lifecycleCalls)
  ⟨h.inverse, h.ends⟩

/-- The graph extended by the lifecycles of some components, in the order of their classes. -/
def link (g : CallGraph) (p : Program) (components : ComponentTable) : CallGraph :=
  ⟨g.toStore.link p components, g.consistent.link p components⟩

end CallGraph

end CallAtlas
