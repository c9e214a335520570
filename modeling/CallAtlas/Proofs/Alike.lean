import CallAtlas.CallGraph.Build
import CallAtlas.CallGraph.Lifecycle
import CallAtlas.Proofs.Filing
import CallAtlas.Xref

/-!
# What the analysis depends on

The call graph and the cross references take little from a program: its superclass chains and
descendants, its block graphs, what its classes say about a call, and which classes and fields are
defined. Two programs that agree in these look the same to the analysis, however their images are
written.

## Main definitions

* `Program.Alike`: two programs look the same to the analysis

## Main results

* `Program.Alike.build_eq`, `Program.Alike.link_eq`, `Program.Alike.xref_eq`: such programs have the
  same call graph, lifecycles and cross references
-/

namespace CallAtlas

namespace Program

variable {p q : Program}

/-- Two programs look the same to the analysis: they have the same superclass chains, descendants
and block graphs, what their classes say about a call is the same, and they define the same classes
and fields. -/
structure Alike (p q : Program) : Prop where
  superclassChain_eq : p.hierarchy.superclassChain = q.hierarchy.superclassChain
  descendants_eq : p.hierarchy.descendants = q.hierarchy.descendants
  graphs_eq : p.graphs = q.graphs
  resolveOn_eq : p.resolveOn = q.resolveOn
  isNone_getClass? : ∀ c, (p.getClass? c).isNone = (q.getClass? c).isNone
  isSome_findField? : ∀ f, (p.findField? f).isSome = (q.findField? f).isSome

namespace Alike

theorem hasEntry_eq (h : p.Alike q) : p.hasEntry = q.hasEntry := by
  funext m
  rw [hasEntry, hasEntry, graph?, graph?, h.graphs_eq]

theorem invocations_eq (h : p.Alike q) : p.invocations = q.invocations := by
  rw [invocations, invocations, graphList, graphList, h.graphs_eq]

theorem resolve_eq (h : p.Alike q) : p.resolve = q.resolve := by
  funext callee
  rw [resolve, resolve, h.superclassChain_eq, h.resolveOn_eq]

theorem explicitTargets_eq (h : p.Alike q) : p.explicitTargets = q.explicitTargets := by
  funext callee
  have hoverrides : p.overrides = q.overrides := by
    funext m
    rw [overrides, overrides, h.descendants_eq, h.hasEntry_eq]
  rw [explicitTargets, explicitTargets, h.resolve_eq, hoverrides]

theorem explicitCalls_eq (h : p.Alike q) : p.explicitCalls = q.explicitCalls := by
  funext i
  have hnode : p.targetNode? = q.targetNode? := by
    funext ⟨m, kind⟩
    cases kind <;> simp only [targetNode?, h.hasEntry_eq]
  rw [explicitCalls, explicitCalls, h.explicitTargets_eq, hnode]

theorem resolvedCalls_eq (h : p.Alike q) : p.resolvedCalls = q.resolvedCalls := by
  funext i
  rw [resolvedCalls, resolvedCalls, h.explicitTargets_eq]

theorem implicitCalls_eq (h : p.Alike q) : p.implicitCalls = q.implicitCalls := by
  funext table i
  have hregistration : p.registration? = q.registration? := by
    funext table callee
    rw [registration?, registration?, h.superclassChain_eq]
  have hcandidates : p.callbackCandidates = q.callbackCandidates := by
    funext caller position callback
    cases position <;> simp only [callbackCandidates, h.descendants_eq]
  rw [implicitCalls, implicitCalls, implicitTargets, implicitTargets, hregistration, hcandidates,
    h.hasEntry_eq]

/-- The call graph depends on nothing else. -/
theorem build_eq (h : p.Alike q) (table : Option RegistrationTable) :
    CallGraph.build p table = CallGraph.build q table := by
  have hcalls : p.callsOf table = q.callsOf table := by
    funext i
    simp only [callsOf, h.explicitCalls_eq, h.implicitCalls_eq]
  simp only [CallGraph.build, CallGraph.Store.build, h.invocations_eq, hcalls, h.resolvedCalls_eq]

/-- The lifecycles of components depend on nothing else. -/
theorem link_eq (h : p.Alike q) (g : CallGraph) (components : ComponentTable) :
    g.link p components = g.link q components := by
  have hcallback : p.callbackNode? = q.callbackNode? := by
    funext className callback
    rw [callbackNode?, callbackNode?, h.resolve_eq, h.hasEntry_eq]
  have hstages : p.stageNodes = q.stageNodes := by
    funext c
    rw [stageNodes, stageNodes, hcallback]
  have hfirst : p.firstNodes = q.firstNodes := by
    funext c
    rw [firstNodes, firstNodes, hstages]
  have hcalls : p.lifecycleCalls = q.lifecycleCalls := by
    funext c
    rw [lifecycleCalls, lifecycleCalls, hfirst, hstages]
  simp only [CallGraph.link, CallGraph.Store.link, hcalls, hfirst]

/-- The cross references depend on nothing else. -/
theorem xref_eq (h : p.Alike q) (g : CallGraph) : XrefIndex.build p g = XrefIndex.build q g := by
  have hinstructions : p.instructions = q.instructions := by
    rw [instructions, instructions, graphList, graphList, h.graphs_eq]
  have husage : p.classUsage? = q.classUsage? := by
    funext method used site kind
    rw [classUsage?, classUsage?, h.isNone_getClass?]
  have hinstruction : p.instructionUsage? = q.instructionUsage? := by
    funext m i
    rw [instructionUsage?, instructionUsage?, husage]
  have haccess : p.instructionAccess? = q.instructionAccess? := by
    funext m i
    simp only [instructionAccess?, h.isSome_findField?]
  have hcall : p.callUsage? = q.callUsage? := by
    funext c
    rw [callUsage?, callUsage?, husage]
  simp only [XrefIndex.build, hinstructions, hinstruction, haccess, hcall]

end Alike

end Program

end CallAtlas
