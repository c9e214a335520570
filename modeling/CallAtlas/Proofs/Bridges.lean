import CallAtlas.Proofs.Callbacks
import CallAtlas.Proofs.Filtering
import CallAtlas.Proofs.Interfaces

/-!
# Callbacks and the calls that register them

A call of a registration method contributes edges twice: the call itself ends at the class where its
climb stops, and the callbacks start at the class for which the table has an entry. Both classes are
found on the same superclass chain, the first as the first one that belongs to the framework or
declares the method, the second as the first one of the table. A callback is connected to the call
that registers it if the two are the same framework class. If the framework is entered below the
class of the table, or if the table names a class of the application, then the callbacks start at a
placeholder that the registering call does not lead to.

## Main results

* `CallGraph.mem_calls_build_of_callsBack`: the edge of a callback
* `CallGraph.bridge_mem_iff`: when a call leads to a placeholder
* `CallGraph.bridge_mem_iff_of_callsBack`: when a callback is connected to the call which registers
  it
-/

namespace CallAtlas.CallGraph

variable {p : Program} {table : RegistrationTable} {caller callee registration target m : MethodRef}
  {position : Position} {b : Block} {i : Instruction}

/-- What a call registers is called back from the placeholder of the registration method. -/
theorem mem_calls_build_of_callsBack (hinvokes : p.Invokes caller b i callee)
    (hback : p.CallsBack table caller.owner callee registration position target) :
    ⟨.placeholder registration, .block target .entry, i.addr, .callback⟩ ∈
      (build p (some table)).calls := by
  have hcause : (⟨caller, i.addr, registration, position, target⟩ : CallbackCause) ∈
      p.invocations.flatMap (p.causesOf table) :=
    Program.mem_flatMap_causesOf.mpr ⟨b, i, callee, hinvokes, rfl, hback⟩
  have hedge := List.mem_map_of_mem (f := CallbackCause.call) hcause
  rw [← filter_callback_calls_build] at hedge
  exact List.mem_of_mem_filter hedge

/-- A call leads to a placeholder if its climb stops there, at a class of the framework. -/
theorem bridge_mem_iff (hinvokes : p.Invokes caller b i callee) :
    ⟨.block caller b.start, .placeholder m, i.addr, .framework⟩ ∈ (build p (some table)).calls ↔
      ∃ x, p.SettlesOn callee x ∧ p.isFramework x = true ∧ m = callee.withOwner x := by
  constructor
  · intro hmem
    obtain ⟨kind, hmay⟩ := (exists_call_iff_mayCall (some table) hinvokes).mp ⟨_, hmem⟩
    -- of the edges that a call contributes, only those to the framework end at a placeholder
    generalize hn : CallNode.placeholder m = n at hmay
    cases hmay with
    | @framework x hx hframework => exact ⟨x, hx, hframework, CallNode.placeholder.inj hn⟩
    | direct => cases hn
    | virtual => cases hn
  · rintro ⟨x, hx, hframework, rfl⟩
    exact mem_calls_build_of_mayCall (some table) hinvokes (.framework hx hframework)

/-- **When a callback is connected to the call that registers it**: the call has an edge to the
placeholder where the callback starts exactly if its own climb stops at the class of the table, and
this class belongs to the framework. The callback then can be reached from the registering block. -/
theorem bridge_mem_iff_of_callsBack (p : Program) (table : RegistrationTable)
    (hinvokes : p.Invokes caller b i callee)
    (hback : p.CallsBack table caller.owner callee registration position target) :
    (⟨.block caller b.start, .placeholder registration, i.addr, .framework⟩ ∈
          (build p (some table)).calls ↔
        p.SettlesOn callee registration.owner ∧ p.isFramework registration.owner = true) ∧
      (p.SettlesOn callee registration.owner → p.isFramework registration.owner = true →
        Relation.ReflTransGen (build p (some table)).HasCall
          (.block caller b.start) (.block target .entry)) := by
  have hcallback := mem_calls_build_of_callsBack hinvokes hback
  have hregistration : registration = callee.withOwner registration.owner := by
    cases hback
    rfl
  have hbridge : ⟨.block caller b.start, .placeholder registration, i.addr, .framework⟩ ∈
        (build p (some table)).calls ↔
      p.SettlesOn callee registration.owner ∧ p.isFramework registration.owner = true := by
    rw [bridge_mem_iff hinvokes]
    constructor
    · rintro ⟨x, hx, hframework, heq⟩
      obtain rfl : registration.owner = x := congrArg MethodRef.owner heq
      exact ⟨hx, hframework⟩
    · rintro ⟨hx, hframework⟩
      exact ⟨registration.owner, hx, hframework, hregistration⟩
  refine ⟨hbridge, ?_⟩
  intro hx hframework
  calc Relation.ReflTransGen (build p (some table)).HasCall (.block caller b.start)
        (.placeholder registration) := .single ⟨_, hbridge.mpr ⟨hx, hframework⟩, rfl, rfl⟩
    Relation.ReflTransGen (build p (some table)).HasCall _ (.block target .entry) :=
        .single ⟨_, hcallback, rfl, rfl⟩

/-! ## An example of both outcomes -/

/-- The method `listen` of a class. -/
def panelListen (owner : String) : MethodRef := ⟨owner, "listen", "()V"⟩

/-- The method `attach` of a class. -/
def panelAttach (owner : String) : MethodRef := ⟨owner, "attach", "()V"⟩

/-- The method `onClick` of a class. -/
def panelClick (owner : String) : MethodRef := ⟨owner, "onClick", "()V"⟩

/-- A call of `listen` on a class, as the only instruction of a block. -/
def panelBlock (widget : String) : Block := ⟨.plain .entry 2 (.invoke (panelListen widget)), []⟩

/-- A class that calls `listen` in its method `attach`, and has the callback `onClick`. -/
def panelClass (name widget : String) : ClassDef :=
  ⟨name, none, [],
    [⟨"attach", "()V", some ⟨(panelBlock widget).instructions, [], rfl⟩⟩, .returning "onClick"], []⟩

/-- The class `Panel` listens to a `Knob`, which is a framework view; `Gauge` listens to a `Dial`,
which is a framework button and as such a view; `Hub` listens to a `Bus` of the application. -/
def panelImage : Image :=
  Image.ofClasses
    [panelClass "Panel" "Knob", panelClass "Gauge" "Dial", panelClass "Hub" "Bus",
      ⟨"Knob", some "fw.View", [], [], []⟩,
      ⟨"Dial", some "fw.Button", [], [], []⟩,
      ⟨"Bus", none, [], [.returning "listen"], []⟩,
      ⟨"fw.Button", some "fw.View", [], [], []⟩,
      ⟨"fw.View", none, [], [], []⟩]

/-- The program of these classes. -/
def panelProgram : Program :=
  .ofNonempty panelImage (.ofPrefixes ["fw."]) (by decide +kernel)

/-- Listening to a view or to the bus registers the method `onClick` of the listener itself. -/
def panelTable : RegistrationTable :=
  .ofList [⟨panelListen "fw.View", .receiver, panelClick "fw.Listener"⟩,
    ⟨panelListen "Bus", .receiver, panelClick "fw.Listener"⟩]

/-- The call graph of the program with its callbacks. -/
def panelGraph : CallGraph := build panelProgram (some panelTable)

theorem invokes_panelProgram {name widget : String}
    (hgraph : panelProgram.graph? (panelAttach name) =
      some (.ofCode ⟨(panelBlock widget).instructions, [], rfl⟩)) :
    panelProgram.Invokes (panelAttach name) (panelBlock widget) (panelBlock widget).head
      (panelListen widget) :=
  ⟨_, hgraph, List.mem_singleton_self _, List.mem_singleton_self _, rfl⟩

theorem callsBack_panelProgram {name widget owner : String}
    (hcause : ⟨panelAttach name, .entry, panelListen owner, .receiver, panelClick name⟩ ∈
      panelProgram.causesOf panelTable ⟨panelAttach name, .entry, .entry, panelListen widget⟩) :
    panelProgram.CallsBack panelTable name (panelListen widget) (panelListen owner) .receiver
      (panelClick name) :=
  (Program.mem_causesOf.mp hcause).2.2

/-- The call of `Knob.listen` enters the framework at the class of the table. -/
theorem bridge_mem_iff_of_callsBack_panel :
    panelProgram.Invokes (panelAttach "Panel") (panelBlock "Knob") (panelBlock "Knob").head
        (panelListen "Knob") ∧
      panelProgram.CallsBack panelTable "Panel" (panelListen "Knob") (panelListen "fw.View")
        .receiver (panelClick "Panel") ∧
      ⟨.block (panelAttach "Panel") .entry, .placeholder (panelListen "fw.View"), .entry,
        .framework⟩ ∈ panelGraph.calls ∧
      Relation.ReflTransGen panelGraph.HasCall (.block (panelAttach "Panel") .entry)
        (.block (panelClick "Panel") .entry) := by
  have hinvokes : panelProgram.Invokes (panelAttach "Panel") (panelBlock "Knob")
      (panelBlock "Knob").head (panelListen "Knob") := invokes_panelProgram (by decide +kernel)
  have hback : panelProgram.CallsBack panelTable "Panel" (panelListen "Knob")
      (panelListen "fw.View") .receiver (panelClick "Panel") :=
    callsBack_panelProgram (by decide +kernel)
  have hresolve : panelProgram.resolve (panelListen "Knob") =
      .framework (panelListen "fw.View") := by decide +kernel
  obtain ⟨x, hx, hframework, heq⟩ := Program.resolve_eq_framework_iff.mp hresolve
  obtain rfl : "fw.View" = x := congrArg MethodRef.owner heq
  obtain ⟨hbridge, hreach⟩ := bridge_mem_iff_of_callsBack panelProgram panelTable hinvokes hback
  exact ⟨hinvokes, hback, hbridge.mpr ⟨hx, hframework⟩, hreach hx hframework⟩

/-- Callbacks that are not connected to the call which registers them: the call of `Dial.listen`
enters the framework at `fw.Button`, below the class of the table; the call of `Bus.listen` does not
enter it. Nor does any other path lead from these blocks to the callbacks. -/
theorem callbacks_without_bridge :
    (panelProgram.Invokes (panelAttach "Gauge") (panelBlock "Dial") (panelBlock "Dial").head
          (panelListen "Dial") ∧
        panelProgram.CallsBack panelTable "Gauge" (panelListen "Dial") (panelListen "fw.View")
          .receiver (panelClick "Gauge") ∧
        ⟨.block (panelAttach "Gauge") .entry, .placeholder (panelListen "fw.View"), .entry,
          .framework⟩ ∉ panelGraph.calls ∧
        ¬ Relation.ReflTransGen panelGraph.HasCall (.block (panelAttach "Gauge") .entry)
          (.block (panelClick "Gauge") .entry)) ∧
      (panelProgram.Invokes (panelAttach "Hub") (panelBlock "Bus") (panelBlock "Bus").head
          (panelListen "Bus") ∧
        panelProgram.CallsBack panelTable "Hub" (panelListen "Bus") (panelListen "Bus")
          .receiver (panelClick "Hub") ∧
        ⟨.block (panelAttach "Hub") .entry, .placeholder (panelListen "Bus"), .entry,
          .framework⟩ ∉ panelGraph.calls ∧
        ¬ Relation.ReflTransGen panelGraph.HasCall (.block (panelAttach "Hub") .entry)
          (.block (panelClick "Hub") .entry)) := by
  have hsearch : ∀ name ∈ ["Gauge", "Hub"],
      .block (panelClick name) .entry ∈ panelGraph.nodes ∧
        ¬ panelGraph.LeadsTo (· = .block (panelClick name) .entry)
          (.block (panelAttach name) .entry) := by
    decide +kernel
  have hpath : ∀ name ∈ ["Gauge", "Hub"],
      ¬ Relation.ReflTransGen panelGraph.HasCall (.block (panelAttach name) .entry)
        (.block (panelClick name) .entry) := by
    intro name hname hpath
    obtain ⟨hnode, hnot⟩ := hsearch name hname
    exact hnot ⟨_, hnode, decide_eq_true rfl, hpath⟩
  refine ⟨⟨?_, ?_, by decide +kernel, hpath _ (by decide)⟩, ?_, ?_, by decide +kernel,
    hpath _ (by decide)⟩
  · exact invokes_panelProgram (by decide +kernel)
  · exact callsBack_panelProgram (by decide +kernel)
  · exact invokes_panelProgram (by decide +kernel)
  · exact callsBack_panelProgram (by decide +kernel)

end CallAtlas.CallGraph
