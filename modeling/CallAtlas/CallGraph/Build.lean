import CallAtlas.CallGraph.Basic
import CallAtlas.Registration

/-!
# Building the call graph

Every call instruction of the application contributes the edges to the methods it may reach: the
method it resolves to and the overrides below it, or the placeholder of a framework method. With a
registration table, a call of a registration method also contributes the callbacks that the
framework will make.

## Main definitions

* `Invocation`, `Program.invocations`: the call instructions of a program
* `Program.explicitTargets`: the methods an invocation may reach
* `Program.implicitTargets`: the callbacks an invocation gives rise to
* `CallGraph.Store.build`, `CallGraph.build`: the call graph of a program
-/

namespace CallAtlas

/-- A call instruction: the method and block that hold it, its offset, and the method it names. -/
structure Invocation where
  caller : MethodRef
  block : Offset
  site : Offset
  callee : MethodRef
deriving DecidableEq, Inhabited

/-- The node of the block that holds an invocation. -/
def Invocation.node (i : Invocation) : CallNode := .block i.caller i.block

/-- The call instructions of a method, in order. -/
def BlockGraph.invocations (caller : MethodRef) (g : BlockGraph) : List Invocation :=
  g.blocks.flatMap fun b => b.instructions.filterMap fun i =>
    i.operation.callee?.map fun callee => ⟨caller, b.start, i.addr, callee⟩

namespace Program

/-- The call instructions of a program, in the order of their methods and offsets. -/
def invocations (p : Program) : List Invocation :=
  p.graphList.flatMap fun (m, g) => g.invocations m

/-- The classes below that of a method which have an implementation of their own. -/
def overrides (p : Program) (m : MethodRef) : List MethodRef :=
  ((p.hierarchy.descendants m.owner).map m.withOwner).filter p.hasEntry

/-- The methods that a call may reach and the reason for each: a framework method, or the resolved
method followed by its overrides. -/
def explicitTargets (p : Program) (callee : MethodRef) : List (MethodRef × CallKind) :=
  match p.resolve callee with
  | .unresolved => []
  | .framework target => [(target, .framework)]
  | .method target => (target, .direct) :: (p.overrides target).map (·, .virtual)

/-- The node that a call of a method ends at: the placeholder of a framework method, or the entry
block of a method that has one. -/
def targetNode? (p : Program) : MethodRef × CallKind → Option CallNode
  -- framework code is never expanded
  | (m, .framework) => some (.placeholder m)
  | (m, _) => if p.hasEntry m then some (.block m .entry) else none

/-- The edges an invocation contributes by itself. -/
def explicitCalls (p : Program) (i : Invocation) : List Call :=
  (p.explicitTargets i.callee).filterMap fun t =>
    (p.targetNode? t).map fun n => ⟨i.node, n, i.site, t.2⟩

/-- The methods an invocation resolves to, also those without a body. -/
def resolvedCalls (p : Program) (i : Invocation) : List ResolvedCall :=
  (p.explicitTargets i.callee).map fun (m, kind) => ⟨i.caller, i.block, i.site, m, kind⟩

/-- The entry of a registration table that a call refers to: that of the first superclass, framework
classes included, for which there is one. -/
def registration? (p : Program) (table : RegistrationTable) (callee : MethodRef) :
    Option (MethodRef × Std.ExtTreeMap Position MethodRef) :=
  (p.hierarchy.superclassChain callee.owner).findSome? fun c =>
    (table.get? (callee.withOwner c)).map fun callbacks => (callee.withOwner c, callbacks)

/-- The methods that may implement a callback registered by a method of the class `caller`. -/
def callbackCandidates (p : Program) (caller : String) (position : Position)
    (callback : MethodRef) : List MethodRef :=
  match position with
  | .receiver => [callback.withOwner caller]
  | .argument _ => (p.hierarchy.descendants callback.owner).map callback.withOwner
  | .type name => (p.hierarchy.descendants name).map callback.withOwner

/-- The callbacks an invocation gives rise to, with the registration method behind them. -/
def implicitTargets (p : Program) (table : RegistrationTable) (i : Invocation) :
    List (MethodRef × MethodRef) :=
  match p.registration? table i.callee with
  | none => []
  | some (registration, callbacks) =>
    callbacks.toList.flatMap fun (position, callback) =>
      ((p.callbackCandidates i.caller.owner position callback).filter p.hasEntry).map
        (registration, ·)

/-- The edges an invocation contributes through registered callbacks. -/
def implicitCalls (p : Program) (table : RegistrationTable) (i : Invocation) : List Call :=
  (p.implicitTargets table i).map fun (registration, target) =>
    ⟨.placeholder registration, .block target .entry, i.site, .callback⟩

/-- The edges an invocation contributes. -/
def callsOf (p : Program) (table : Option RegistrationTable) (i : Invocation) : List Call :=
  p.explicitCalls i ++ match table with
    | none => []
    | some table => p.implicitCalls table i

end Program

namespace CallGraph

/-- The nodes and edges of a program; with a registration table they include callbacks. -/
def Store.build (p : Program) (table : Option RegistrationTable) : Store :=
  let store := Store.empty.addCalls (p.invocations.flatMap (p.callsOf table))
  { store with resolved := p.invocations.flatMap p.resolvedCalls }

theorem Store.consistent_build (p : Program) (table : Option RegistrationTable) :
    (Store.build p table).Consistent :=
  have h := consistent_empty.addCalls (p.invocations.flatMap (p.callsOf table))
  ⟨h.inverse, h.ends⟩

/-- The call graph of a program; with a registration table it includes callbacks. -/
def build (p : Program) (table : Option RegistrationTable) : CallGraph :=
  ⟨Store.build p table, Store.consistent_build p table⟩

end CallGraph

end CallAtlas
