import CallAtlas.Proofs.Layers

/-!
# The lifecycles of components

A component that is linked is entered by its first callback and goes on from stage to stage. Stages
without callback are skipped, and the callbacks of the others are all reached, since a stage that is
kept has a callback through which the later ones are reached. Callbacks may be inherited, so
components of any kinds share them; still, linking any number of components closes no cycle. For a
callback has one place in the course of all kinds of components, and every edge leads to a later one.

## Main definitions

* `ComponentKind.place`, `CallNode.place`: the place of a callback in the course of components
* `Program.Starts`: the components that can be started
* `CallGraph.LifecycleStep`: a step from one callback to another
* `CallGraph.Orderly`: lifecycles lead to later places, and no entry is listed twice

## Main results

* `Program.transGen_chainCalls`: a chain of stages reaches all nodes of all of them
* `Program.rel_of_mem_chainCalls`, `Program.place_lt_of_mem_lifecycleCalls`: every edge of a
  lifecycle leads to a later place
* `CallGraph.mem_addEntries`, `CallGraph.nodup_addEntries`: the entries of a linked graph
* `CallGraph.Orderly.link`, `CallGraph.Orderly.linkAll`: what linking preserves
* `CallGraph.lifecycles_link`: what linking some components adds to a call graph
-/

namespace CallAtlas

/-! ## Places -/

/-- The place of a callback in the course of a component: its stage, the latest one where different
kinds of components have it at different stages. -/
def ComponentKind.place (callback : String × String) : Nat :=
  (all.map fun kind => (kind.stages.findIdx? (·.contains callback)).getD 0).foldl max 0

/-- The callbacks of a stage have a later place than those of the stages before it. -/
theorem ComponentKind.pairwise_place (kind : ComponentKind) :
    kind.stages.Pairwise fun s t => ∀ x ∈ s, ∀ y ∈ t, place x < place y := by
  cases kind <;> decide

/-- The place of a node in the course of a component, which begins at a placeholder. -/
def CallNode.place : CallNode → Nat
  | .placeholder _ => 0
  | .block m _ => ComponentKind.place (m.name, m.descriptor) + 1

theorem Component.entry_injective : Function.Injective Component.entry := by
  rintro ⟨c, kind⟩ ⟨d, kind'⟩ h
  simp only [entry, CallNode.placeholder.injEq, MethodRef.mk.injEq] at h
  obtain ⟨rfl, hkind, -⟩ := h
  cases kind <;> cases kind' <;> simp_all [ComponentKind.text]

theorem ComponentTable.mem_toList {t : ComponentTable} {c : Component} :
    c ∈ t.toList ↔ t.get? c.className = some c.kind := by
  rw [toList, List.mem_map, get?]
  constructor
  · rintro ⟨⟨name, kind⟩, hmem, rfl⟩
    exact Std.ExtTreeMap.mem_toList_iff_getElem?_eq_some.mp hmem
  · intro h
    exact ⟨(c.className, c.kind), Std.ExtTreeMap.mem_toList_iff_getElem?_eq_some.mpr h, rfl⟩

namespace Program

variable {p : Program} {c : Component} {className : String} {callback : String × String}
  {m : MethodRef} {n : CallNode} {e : Call}

/-! ## Callbacks -/

/-- The platform can start a component: the class has a callback of the first stage. -/
def Starts (p : Program) (c : Component) : Prop :=
  ∃ callback ∈ c.kind.stages.headD [], ∃ m, p.Runs c.className callback m

/-- A method that is inherited has the name and the descriptor of the callback. -/
theorem Runs.callback_eq (h : p.Runs className callback m) : (m.name, m.descriptor) = callback := by
  obtain ⟨x, -, -, rfl⟩ := resolve_eq_method_iff.mp h.1
  rfl

theorem mem_filterMap_callbackNode? {callbacks : List (String × String)} :
    n ∈ callbacks.filterMap (p.callbackNode? className) ↔
      ∃ callback ∈ callbacks, ∃ m, p.Runs className callback m ∧ n = .block m .entry := by
  simp only [List.mem_filterMap, callbackNode?_eq_some_iff]

theorem mem_firstNodes :
    n ∈ p.firstNodes c ↔
      ∃ callback ∈ c.kind.stages.headD [], ∃ m, p.Runs c.className callback m ∧
        n = .block m .entry := by
  rw [← mem_filterMap_callbackNode?, firstNodes, stageNodes]
  cases c.kind.stages <;> rfl

theorem firstNodes_ne_nil_iff : p.firstNodes c ≠ [] ↔ p.Starts c := by
  constructor
  · intro hne
    obtain ⟨n, hn⟩ := List.exists_mem_of_ne_nil _ hne
    obtain ⟨callback, hcallback, m, hruns, -⟩ := mem_firstNodes.mp hn
    exact ⟨callback, hcallback, m, hruns⟩
  · rintro ⟨callback, hcallback, m, hruns⟩
    exact List.ne_nil_of_mem (mem_firstNodes.mpr ⟨callback, hcallback, m, hruns, rfl⟩)

/-- A component that cannot be started has no lifecycle. -/
theorem starts_of_mem_lifecycleCalls (he : e ∈ p.lifecycleCalls c) :
    p.Starts c ∧ e ∈ chainCalls [c.entry] ((p.stageNodes c).filter (· ≠ [])) := by
  rw [lifecycleCalls] at he
  split at he
  · cases he
  · next hfirst => exact ⟨firstNodes_ne_nil_iff.mp hfirst, he⟩

theorem lifecycleCalls_of_starts (h : p.Starts c) :
    p.lifecycleCalls c = chainCalls [c.entry] ((p.stageNodes c).filter (· ≠ [])) := by
  rw [lifecycleCalls, if_neg (firstNodes_ne_nil_iff.mpr h)]

end Program

namespace CallGraph

/-- One of the calls leads from a node to another as a step of a lifecycle. -/
def LifecycleStep (calls : List Call) (n n' : CallNode) : Prop :=
  ∃ e ∈ calls, e.kind = .lifecycle ∧ e.source = n ∧ e.target = n'

section Mono

variable {calls calls' : List Call} {n n' : CallNode}

theorem LifecycleStep.mono (hsub : calls ⊆ calls') (h : LifecycleStep calls n n') :
    LifecycleStep calls' n n' := by
  obtain ⟨e, he, hstep⟩ := h
  exact ⟨e, hsub he, hstep⟩

/-- A path of such steps remains where calls are added. -/
theorem transGen_lifecycleStep_mono (hsub : calls ⊆ calls')
    (h : Relation.TransGen (LifecycleStep calls) n n') :
    Relation.TransGen (LifecycleStep calls') n n' :=
  h.lift id fun _ _ hstep => hstep.mono hsub

end Mono

end CallGraph

namespace Program

open CallGraph (LifecycleStep)

variable {p : Program} {c : Component} {n s : CallNode} {e : Call} {sources stage : List CallNode}
  {stages : List (List CallNode)}

/-! ## Chains of stages -/

theorem lifecycleStep_stageCalls {targets : List CallNode} (hs : s ∈ sources) (hn : n ∈ targets) :
    LifecycleStep (stageCalls sources targets) s n :=
  ⟨⟨s, n, .entry, .lifecycle⟩, List.mem_flatMap.mpr ⟨s, hs, List.mem_map_of_mem hn⟩, rfl, rfl, rfl⟩

/-- **A chain of stages reaches all nodes of all of them**, if no stage is empty. -/
theorem transGen_chainCalls (hne : ∀ stage ∈ stages, stage ≠ []) (hs : s ∈ sources)
    (hstage : stage ∈ stages) (hn : n ∈ stage) :
    Relation.TransGen (LifecycleStep (chainCalls sources stages)) s n := by
  induction stages generalizing s sources with
  | nil => cases hstage
  | cons first rest ih =>
    have hfirst : ∀ x ∈ first, LifecycleStep (chainCalls sources (first :: rest)) s x :=
      fun x hx => (lifecycleStep_stageCalls hs hx).mono (List.subset_append_left _ _)
    rcases List.mem_cons.mp hstage with rfl | hrest
    · exact .single (hfirst n hn)
    · obtain ⟨x, hx⟩ := List.exists_mem_of_ne_nil first (hne first List.mem_cons_self)
      have hpath := ih (fun stage h => hne stage (List.mem_cons_of_mem _ h)) hx hrest
      exact .head (hfirst x hx)
        (CallGraph.transGen_lifecycleStep_mono (List.subset_append_right _ _) hpath)

/-- The edges of a chain lead from a stage to the next one, hence follow any relation that holds
between the nodes of earlier and later stages. -/
theorem rel_of_mem_chainCalls {R : CallNode → CallNode → Prop}
    (h : (sources :: stages).Pairwise fun s t => ∀ x ∈ s, ∀ y ∈ t, R x y)
    (he : e ∈ chainCalls sources stages) : R e.source e.target := by
  induction stages generalizing sources with
  | nil => cases he
  | cons first rest ih =>
    obtain ⟨hsources, hrest⟩ := List.pairwise_cons.mp h
    rcases List.mem_append.mp he with he | he
    · obtain ⟨x, hx, he⟩ := List.mem_flatMap.mp he
      obtain ⟨y, hy, rfl⟩ := List.mem_map.mp he
      exact hsources first List.mem_cons_self x hx y hy
    · exact ih hrest he

/-! ## The lifecycle of a component -/

/-- The stages of a component, from its entry on, have later and later places. -/
theorem pairwise_stageNodes (p : Program) (c : Component) :
    ([c.entry] :: p.stageNodes c).Pairwise fun s t => ∀ x ∈ s, ∀ y ∈ t, x.place < y.place := by
  refine List.pairwise_cons.mpr ⟨?_, List.pairwise_map.mpr ?_⟩
  · intro stage hstage x hx y hy
    obtain rfl := List.mem_singleton.mp hx
    obtain ⟨m, rfl, -⟩ := isEntry_of_mem_stageNodes hstage hy
    exact Nat.succ_pos _
  · refine c.kind.pairwise_place.imp ?_
    intro s t hst x hx y hy
    obtain ⟨callback, hs, m, hm, rfl⟩ := mem_filterMap_callbackNode?.mp hx
    obtain ⟨callback', ht, m', hm', rfl⟩ := mem_filterMap_callbackNode?.mp hy
    -- a callback keeps its name and descriptor wherever it is inherited from
    have hlt := hst callback hs callback' ht
    rw [← hm.callback_eq, ← hm'.callback_eq] at hlt
    exact Nat.succ_lt_succ hlt

/-- **Every edge of a lifecycle leads to a later place.** -/
theorem place_lt_of_mem_lifecycleCalls (he : e ∈ p.lifecycleCalls c) :
    e.source.place < e.target.place := by
  obtain ⟨-, hchain⟩ := starts_of_mem_lifecycleCalls he
  have hsub : List.Sublist ([c.entry] :: (p.stageNodes c).filter (· ≠ []))
      ([c.entry] :: p.stageNodes c) := List.filter_sublist.cons_cons _
  exact rel_of_mem_chainCalls (R := fun x y => x.place < y.place)
    ((p.pairwise_stageNodes c).sublist hsub) hchain

/-- All callbacks of a component that is started are reached from its entry. -/
theorem transGen_lifecycleCalls (hstarts : p.Starts c) {callbacks : List (String × String)}
    (hcallbacks : callbacks ∈ c.kind.stages) {callback : String × String}
    (hcallback : callback ∈ callbacks) {m : MethodRef} (hruns : p.Runs c.className callback m) :
    Relation.TransGen (LifecycleStep (p.lifecycleCalls c)) c.entry (.block m .entry) := by
  have hn : .block m .entry ∈ callbacks.filterMap (p.callbackNode? c.className) :=
    mem_filterMap_callbackNode?.mpr ⟨callback, hcallback, m, hruns, rfl⟩
  have hstage : callbacks.filterMap (p.callbackNode? c.className) ∈
      (p.stageNodes c).filter (· ≠ []) :=
    List.mem_filter.mpr ⟨List.mem_map_of_mem hcallbacks, by simpa using List.ne_nil_of_mem hn⟩
  rw [lifecycleCalls_of_starts hstarts]
  exact transGen_chainCalls (by simp) (List.mem_singleton_self _) hstage hn

/-- The edges of a lifecycle leave no entry of another component. -/
theorem eq_of_source_eq_entry {d : Component} (he : e ∈ p.lifecycleCalls c)
    (hsource : e.source = d.entry) : c = d := by
  obtain ⟨hfrom, -⟩ := mem_chainCalls (starts_of_mem_lifecycleCalls he).2
  rcases hfrom with hentry | ⟨stage, hstage, hmem⟩
  · exact Component.entry_injective ((List.mem_singleton.mp hentry).symm.trans hsource)
  · obtain ⟨m, hblock, -⟩ := isEntry_of_mem_stageNodes (List.mem_of_mem_filter hstage) hmem
    cases hblock.symm.trans hsource

end Program

namespace CallGraph

variable {p : Program} {g : CallGraph} {n : CallNode} {entries nodes : List CallNode}

/-! ## Entries -/

theorem mem_addEntries : n ∈ addEntries entries nodes ↔ n ∈ entries ∨ n ∈ nodes := by
  induction nodes generalizing entries with
  | nil => simp [addEntries]
  | cons x nodes ih =>
    rw [addEntries, List.foldl_cons, ← addEntries, ih, List.mem_cons]
    split
    · next hx =>
      have hmem : x ∈ entries := List.contains_iff_mem.mp hx
      constructor
      · exact Or.imp_right .inr
      · rintro (hn | rfl | hn)
        · exact .inl hn
        · exact .inl hmem
        · exact .inr hn
    · rw [List.mem_append, List.mem_singleton, or_assoc]

theorem nodup_addEntries (h : entries.Nodup) : (addEntries entries nodes).Nodup := by
  induction nodes generalizing entries with
  | nil => exact h
  | cons x nodes ih =>
    rw [addEntries, List.foldl_cons, ← addEntries]
    split
    · exact ih h
    · next hx =>
      refine ih (List.nodup_append.mpr ⟨h, List.nodup_singleton x, ?_⟩)
      intro y hy z hz
      obtain rfl := List.mem_singleton.mp hz
      rintro rfl
      exact hx (List.contains_iff_mem.mpr hy)

/-! ## What linking preserves -/

/-- Lifecycles lead to later places, and no entry is listed twice. -/
structure Orderly (g : CallGraph) : Prop where
  place_lt : ∀ e ∈ g.calls, e.kind = .lifecycle → e.source.place < e.target.place
  nodup : g.entries.Nodup

theorem orderly_build (p : Program) (table : Option RegistrationTable) :
    (build p table).Orderly := by
  refine ⟨?_, by simp [entries_build]⟩
  intro e he hkind
  rw [calls_build] at he
  obtain ⟨inv, -, he⟩ := List.mem_flatMap.mp he
  have hexplicit := Program.isExplicit_iff_of_mem_callsOf he
  simp [hkind, CallKind.isExplicit] at hexplicit

/-- One table of components. -/
theorem Orderly.link (h : g.Orderly) (components : ComponentTable) :
    (g.link p components).Orderly := by
  refine ⟨?_, nodup_addEntries h.nodup⟩
  intro e he hkind
  rw [calls_link] at he
  rcases List.mem_append.mp he with he | he
  · exact h.place_lt e he hkind
  · obtain ⟨c, -, he⟩ := List.mem_flatMap.mp he
    exact Program.place_lt_of_mem_lifecycleCalls he

/-- Any number of tables. -/
theorem Orderly.linkAll (h : g.Orderly) (tables : List ComponentTable) :
    (g.linkAll p tables).Orderly := by
  induction tables generalizing g with
  | nil => exact h
  | cons components tables ih => exact ih (h.link components)

/-- Lifecycles that lead to later places form no cycle. -/
theorem Orderly.acyclic (h : g.Orderly) (n : CallNode) :
    ¬ Relation.TransGen (LifecycleStep g.calls) n n := by
  have hplace : ∀ x y, Relation.TransGen (LifecycleStep g.calls) x y → x.place < y.place := by
    intro x y hpath
    induction hpath with
    | single hstep =>
      obtain ⟨e, he, hkind, rfl, rfl⟩ := hstep
      exact h.place_lt e he hkind
    | tail _ hstep ih =>
      obtain ⟨e, he, hkind, rfl, rfl⟩ := hstep
      exact ih.trans (h.place_lt e he hkind)
  intro hcycle
  exact Nat.lt_irrefl _ (hplace n n hcycle)

/-- **What linking components adds** to a call graph that other components were linked to before.
From the entry of a component of the table that can be started, all its callbacks are reached along
the added edges; no added edge leaves the entry of any other component. The entries are those of
before and the first callbacks of these components, each once. The lifecycles form no cycle. -/
theorem lifecycles_link (table : Option RegistrationTable) (tables : List ComponentTable)
    (components : ComponentTable) (hg : g = (build p table).linkAll p tables) :
    (∃ added, (g.link p components).calls = g.calls ++ added ∧
      (∀ c : Component, components.get? c.className = some c.kind → p.Starts c →
        ∀ stage ∈ c.kind.stages, ∀ callback ∈ stage, ∀ m, p.Runs c.className callback m →
          Relation.TransGen (LifecycleStep added) c.entry (.block m .entry)) ∧
      ∀ c : Component, ¬ (components.get? c.className = some c.kind ∧ p.Starts c) →
        ∀ e ∈ added, e.source ≠ c.entry) ∧
      (g.link p components).entries.Nodup ∧
      (∀ n, n ∈ (g.link p components).entries ↔
        n ∈ g.entries ∨ ∃ c : Component, components.get? c.className = some c.kind ∧
          ∃ callback ∈ c.kind.stages.headD [], ∃ m, p.Runs c.className callback m ∧
            n = .block m .entry) ∧
      ∀ n, ¬ Relation.TransGen (LifecycleStep (g.link p components).calls) n n := by
  have horderly : (g.link p components).Orderly := by
    rw [hg]
    exact ((orderly_build p table).linkAll tables).link components
  refine ⟨⟨components.toList.flatMap p.lifecycleCalls, g.calls_link p components, ?_, ?_⟩,
    horderly.nodup, ?_, horderly.acyclic⟩
  · intro c hc hstarts stage hstage callback hcallback m hruns
    have hsub : p.lifecycleCalls c ⊆ components.toList.flatMap p.lifecycleCalls := by
      intro e he
      exact List.mem_flatMap.mpr ⟨c, ComponentTable.mem_toList.mpr hc, he⟩
    exact transGen_lifecycleStep_mono hsub
      (Program.transGen_lifecycleCalls hstarts hstage hcallback hruns)
  · intro c hc e he hsource
    obtain ⟨d, hd, he⟩ := List.mem_flatMap.mp he
    obtain rfl := Program.eq_of_source_eq_entry he hsource
    exact hc ⟨ComponentTable.mem_toList.mp hd, (Program.starts_of_mem_lifecycleCalls he).1⟩
  · intro n
    have hentries : (g.link p components).entries =
        addEntries g.entries (components.toList.flatMap p.firstNodes) := rfl
    simp only [hentries, mem_addEntries, List.mem_flatMap, ComponentTable.mem_toList,
      Program.mem_firstNodes]

/-- An activity `Base`, an activity `Player` that inherits its first and its last callback from
`Base`, and a service `Tuner` without a first callback. -/
def playerImage : Image :=
  let created : Method := { Method.returning "onCreate" with descriptor := "(Landroid/os/Bundle;)V" }
  Image.ofClasses [⟨"Base", some "fw.Activity", [], [created, .returning "onStop"], []⟩,
    ⟨"Player", some "Base", [], [.returning "onResume"], []⟩,
    ⟨"Tuner", some "fw.Service", [], [.returning "onDestroy"], []⟩]

/-- The program of these classes. -/
def playerProgram : Program :=
  .ofNonempty playerImage (.ofPrefixes ["fw."]) (by decide +kernel)

/-- The three components. -/
def playerComponents : ComponentTable :=
  .ofList [⟨"Base", .activity⟩, ⟨"Player", .activity⟩, ⟨"Tuner", .service⟩]

/-- The call graph of the program, to which the components were linked once. -/
def playerGraph : CallGraph := (build playerProgram none).linkAll playerProgram [playerComponents]

/-- Linked again, `Player` is led from the callback that it inherits through its own to another one
that it inherits, `Tuner` is not started, and the callback shared by two components is one entry. -/
theorem lifecycles_link_player :
    (∃ added,
      (playerGraph.link playerProgram playerComponents).calls = playerGraph.calls ++ added ∧
      Relation.TransGen (LifecycleStep added) (Component.entry ⟨"Player", .activity⟩)
        (.block ⟨"Base", "onStop", "()V"⟩ .entry) ∧
      ∀ e ∈ added, e.source ≠ Component.entry ⟨"Tuner", .service⟩) ∧
      (playerGraph.link playerProgram playerComponents).entries.Nodup ∧
      (playerGraph.link playerProgram playerComponents).entries =
        [.block ⟨"Base", "onCreate", "(Landroid/os/Bundle;)V"⟩ .entry] := by
  have hplayer : playerComponents.get? "Player" = some .activity := by decide +kernel
  have hcreate : playerProgram.Runs "Player" ("onCreate", "(Landroid/os/Bundle;)V")
      ⟨"Base", "onCreate", "(Landroid/os/Bundle;)V"⟩ :=
    ⟨by decide +kernel, Program.hasEntry_iff.mp (by decide +kernel)⟩
  have hstop : playerProgram.Runs "Player" ("onStop", "()V") ⟨"Base", "onStop", "()V"⟩ :=
    ⟨by decide +kernel, Program.hasEntry_iff.mp (by decide +kernel)⟩
  have htuner : ¬ (playerComponents.get? "Tuner" = some .service ∧
      playerProgram.Starts ⟨"Tuner", .service⟩) := by
    rw [← Program.firstNodes_ne_nil_iff]
    decide +kernel
  obtain ⟨⟨added, hadded, hreach, hleave⟩, hnodup, -, -⟩ :=
    lifecycles_link none [playerComponents] playerComponents (rfl : playerGraph = _)
  refine ⟨⟨added, hadded, ?_, hleave ⟨"Tuner", .service⟩ htuner⟩, hnodup, by decide +kernel⟩
  exact hreach ⟨"Player", .activity⟩ hplayer ⟨_, by decide, _, hcreate⟩ [("onStop", "()V")]
    (by decide) _ (by decide) _ hstop

end CallGraph

end CallAtlas
