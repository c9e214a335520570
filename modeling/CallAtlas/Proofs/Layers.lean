import CallAtlas.Proofs.Typing
import CallAtlas.Xref

/-!
# Callbacks and lifecycles only add

A call graph is made in layers. Its explicit calls are those of the call instructions; a
registration table puts callbacks between them, and components put lifecycles after them. Callbacks
and explicit calls alternate, one call instruction after the other, but neither layer changes what
the explicit calls are, in which order they stand, and what they are resolved to. So the cross
references, which are made of the code and the resolved calls, do not depend on the other layers.

## Main definitions

* `CallGraph.linkAll`: a call graph extended by several tables of components, one after the other

## Main results

* `CallGraph.filter_ne_callback_calls_build`: the edges without the callbacks
* `CallGraph.exists_calls_link`, `CallGraph.exists_calls_linkAll`: linking appends lifecycles
* `XrefIndex.build_congr`: the cross references depend on the resolved calls only
* `CallGraph.layers_only_add`: callbacks and lifecycles only add
-/

namespace CallAtlas

namespace Program

variable {p : Program} {e : Call} {c : Component}

/-- A call instruction contributes explicit calls and callbacks, and nothing else. -/
theorem isExplicit_iff_of_mem_callsOf {table : Option RegistrationTable} {inv : Invocation}
    (he : e ∈ p.callsOf table inv) : e.kind.isExplicit = true ↔ e.kind ≠ .callback := by
  rcases List.mem_append.mp he with he | he
  · have hexplicit := (mem_explicitCalls.mp he).2.2.isExplicit
    refine iff_of_true hexplicit ?_
    intro hkind
    rw [hkind] at hexplicit
    cases hexplicit
  · cases table with
    | none => cases he
    | some table =>
      obtain ⟨⟨registration, target⟩, -, rfl⟩ := List.mem_map.mp he
      exact iff_of_false (by simp [CallKind.isExplicit]) (by simp)

/-- Without registrations, a call instruction contributes its explicit calls. -/
theorem callsOf_none (p : Program) : p.callsOf none = p.explicitCalls := by
  funext inv
  exact List.append_nil _

theorem kind_of_mem_lifecycleCalls (he : e ∈ p.lifecycleCalls c) : e.kind = .lifecycle := by
  rw [lifecycleCalls] at he
  split at he
  · cases he
  · exact (mem_chainCalls he).2.2.2

end Program

/-- The cross references are made of the code and the resolved calls. -/
theorem XrefIndex.build_congr (p : Program) {g g' : CallGraph} (h : g.resolved = g'.resolved) :
    build p g = build p g' := by
  simp only [build, h]

namespace CallGraph

/-- The call graph extended by several tables of components, one after the other. -/
def linkAll (g : CallGraph) (p : Program) (tables : List ComponentTable) : CallGraph :=
  tables.foldl (fun g components => g.link p components) g

/-- Without its callbacks, a call graph has the edges that it has without registrations, in the same
order. -/
theorem filter_ne_callback_calls_build (p : Program) (table : Option RegistrationTable) :
    (build p table).calls.filter (·.kind ≠ .callback) = (build p none).calls := by
  have hkinds : (build p table).calls.filter (·.kind ≠ .callback) =
      (build p table).calls.filter (·.kind.isExplicit) := by
    refine List.filter_congr ?_
    intro e he
    rw [calls_build] at he
    obtain ⟨inv, -, he⟩ := List.mem_flatMap.mp he
    rw [Bool.eq_iff_iff, decide_eq_true_eq]
    exact (Program.isExplicit_iff_of_mem_callsOf he).symm
  rw [hkinds, filter_isExplicit_calls_build, calls_build, p.callsOf_none]

/-- Linking components appends lifecycles to the edges. -/
theorem exists_calls_link (g : CallGraph) (p : Program) (components : ComponentTable) :
    ∃ added, (g.link p components).calls = g.calls ++ added ∧ ∀ e ∈ added, e.kind = .lifecycle := by
  refine ⟨components.toList.flatMap p.lifecycleCalls, g.calls_link p components, ?_⟩
  intro e he
  obtain ⟨c, -, he⟩ := List.mem_flatMap.mp he
  exact Program.kind_of_mem_lifecycleCalls he

/-- Linking one table of components after the other does so as well. -/
theorem exists_calls_linkAll (g : CallGraph) (p : Program) (tables : List ComponentTable) :
    ∃ added, (g.linkAll p tables).calls = g.calls ++ added ∧
      ∀ e ∈ added, e.kind = .lifecycle := by
  induction tables generalizing g with
  | nil => exact ⟨[], (List.append_nil _).symm, by simp⟩
  | cons components tables ih =>
    obtain ⟨first, hfirst, hkind⟩ := g.exists_calls_link p components
    obtain ⟨rest, hrest, hkind'⟩ := ih (g.link p components)
    refine ⟨first ++ rest, ?_, ?_⟩
    · rw [← List.append_assoc, ← hfirst]
      exact hrest
    · intro e he
      rcases List.mem_append.mp he with he | he
      · exact hkind e he
      · exact hkind' e he

/-- Linking resolves nothing anew. -/
theorem resolved_linkAll (g : CallGraph) (p : Program) (tables : List ComponentTable) :
    (g.linkAll p tables).resolved = g.resolved := by
  induction tables generalizing g with
  | nil => rfl
  | cons components tables ih =>
    exact (ih (g.link p components)).trans (g.resolved_link p components)

/-- **Callbacks and lifecycles only add**: whichever registration table is given, deleting the
callbacks from the edges leaves those of the call graph without table, in their order, and the
resolved calls are the same; linking components appends lifecycles to the edges of any graph and
leaves its resolved calls as they are; so the cross references are the same for every table, and
whatever components are linked. -/
theorem layers_only_add (p : Program) (table : Option RegistrationTable) (g : CallGraph)
    (tables : List ComponentTable) :
    (build p table).calls.filter (·.kind ≠ .callback) = (build p none).calls ∧
      (build p table).resolved = (build p none).resolved ∧
      (∃ added, (g.linkAll p tables).calls = g.calls ++ added ∧
        ∀ e ∈ added, e.kind = .lifecycle) ∧
      (g.linkAll p tables).resolved = g.resolved ∧
      XrefIndex.build p ((build p table).linkAll p tables) = XrefIndex.build p (build p none) := by
  refine ⟨filter_ne_callback_calls_build p table, rfl, g.exists_calls_linkAll p tables,
    g.resolved_linkAll p tables, ?_⟩
  apply XrefIndex.build_congr
  rw [resolved_linkAll]
  rfl

end CallGraph

end CallAtlas
