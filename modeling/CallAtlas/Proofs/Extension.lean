import CallAtlas.Proofs.Callbacks
import CallAtlas.Proofs.Filing
import Mathlib.Data.List.Flatten
import Mathlib.Data.List.Perm.Subperm

/-!
# Adding a class to an image

An image may lack some of the classes that it refers to. Adding one of them lengthens superclass
chains and gives classes new descendants, but it takes nothing away: a climb that stopped at a class
stops there still, since the missing class could only be the last one of a chain. So every call
keeps its edges, and the call graph of the smaller image is part of that of the larger one, each
edge with its multiplicity.

## Main definitions

* `Program.Adds`: the second program has one class more than the first

## Main results

* `subperm_flatMap`: multiplicities in the concatenation of lists
* `Program.Adds.superclassChain_isPrefix`: chains get longer
* `Program.Adds.settlesOn_mono`, `Program.Adds.resolve_mono`: what a call resolves to stays as it is
* `Program.Adds.callsOf_subperm`, `Program.Adds.invocations_subperm`: calls and their edges remain
* `CallGraph.build_addClass`: the call graph of an image is part of that of an extended one
-/

namespace CallAtlas

open scoped List

/-- Concatenating more and longer lists keeps every element as often as it occurs. -/
theorem subperm_flatMap {α β : Type} {l l' : List α} {f g : α → List β} (hl : l <+~ l')
    (hfg : ∀ a ∈ l, f a <+~ g a) : l.flatMap f <+~ l'.flatMap g := by
  have hleft : l.flatMap f <+~ l.flatMap g := by
    clear hl
    induction l with
    | nil => exact .refl _
    | cons a l ih =>
      rw [List.flatMap_cons, List.flatMap_cons]
      exact (hfg a List.mem_cons_self).append (ih fun b hb => hfg b (List.mem_cons_of_mem a hb))
  obtain ⟨k, hperm, hsub⟩ := hl
  have hright : l.flatMap g <+~ l'.flatMap g :=
    (hperm.symm.flatMap_right g).subperm.trans (hsub.flatMap g).subperm
  exact hleft.trans hright

namespace Program

variable {p q : Program} {x c : ClassDef} {name d e : String} {callee m : MethodRef}
  {n : CallNode} {kind : CallKind} {g : BlockGraph} {table : RegistrationTable}

/-- The image of the second program is that of the first with one class added, whose name had no
definition. Classes are filed by name, and the boundary is the same. -/
structure Adds (p : Program) (x : ClassDef) (q : Program) : Prop where
  filed : p.image.Filed
  fresh : p.getClass? x.name = none
  image_eq : q.image = p.image.addClass x
  boundary_eq : q.boundary = p.boundary

namespace Adds

/-! ## Classes, links and chains -/

theorem getClass?_eq (h : p.Adds x q) (name : String) :
    q.getClass? name = (p.getClass? name).or (if x.name = name then some x else none) := by
  rw [getClass?, h.image_eq]
  exact Image.getClass?_addClass _ _ _

theorem getClass?_mono (h : p.Adds x q) (hc : p.getClass? name = some c) :
    q.getClass? name = some c := by
  rw [h.getClass?_eq, hc, Option.some_or]

theorem getClass?_of_ne (h : p.Adds x q) (hname : x.name ≠ name) :
    q.getClass? name = p.getClass? name := by
  rw [h.getClass?_eq, if_neg hname, Option.or_none]

theorem filed_right (h : p.Adds x q) : q.image.Filed := by
  rw [h.image_eq]
  exact h.filed.addClass x

theorem isFramework_eq (h : p.Adds x q) (name : String) :
    q.isFramework name = p.isFramework name := by
  rw [isFramework, isFramework, h.boundary_eq]

theorem classList_subset (h : p.Adds x q) : p.image.classList ⊆ q.image.classList := by
  intro c hc
  obtain ⟨key, hkey⟩ := Image.mem_classList.mp hc
  exact Image.mem_classList.mpr ⟨key, h.getClass?_mono hkey⟩

theorem link_mono (h : p.Adds x q) (hlink : p.image.Link d e) : q.image.Link d e := by
  obtain ⟨cls, hcls, hname, hparent⟩ := hlink
  exact ⟨cls, h.classList_subset hcls, hname, hparent⟩

/-- The class that is added may be a descendant, and may lead to others. -/
theorem descendants_subset (h : p.Adds x q) (name : String) :
    p.hierarchy.descendants name ⊆ q.hierarchy.descendants name := by
  intro d hd
  rw [p.hierarchy_eq, Hierarchy.mem_descendants_ofImage] at hd
  rw [q.hierarchy_eq, Hierarchy.mem_descendants_ofImage]
  exact ⟨hd.1, hd.2.lift id fun _ _ => h.link_mono⟩

theorem extends_mono (h : p.Adds x q) (hextends : p.hierarchy.Extends d e) :
    q.hierarchy.Extends d e := by
  rw [Hierarchy.Extends, p.hierarchy_eq, h.filed.superclass?_ofImage] at hextends
  rw [Hierarchy.Extends, q.hierarchy_eq, h.filed_right.superclass?_ofImage]
  obtain ⟨c, hc, hsuper⟩ := Option.bind_eq_some_iff.mp hextends
  exact Option.bind_eq_some_iff.mpr ⟨c, h.getClass?_mono hc, hsuper⟩

theorem size_nodes_le (h : p.Adds x q) : p.hierarchy.nodes.size ≤ q.hierarchy.nodes.size := by
  rw [p.hierarchy_eq, q.hierarchy_eq]
  exact Hierarchy.size_nodes_ofImage_le (fun cls hcls => ⟨cls, h.classList_subset hcls, rfl⟩)
    fun _ _ => h.link_mono

/-- Superclass chains get longer, but go the same way. -/
theorem superclassChain_isPrefix (h : p.Adds x q) (name : String) :
    p.hierarchy.superclassChain name <+: q.hierarchy.superclassChain name :=
  Hierarchy.climb_isPrefix_of_extends (fun _ _ => h.extends_mono) (List.Subset.refl _)
    (Nat.succ_le_succ h.size_nodes_le)

/-- The class that is added has no superclass before, so it is no inner member of a chain. -/
theorem name_ne_of_mem_before (h : p.Adds x q) {before after : List String}
    (hchain : p.hierarchy.superclassChain name = before ++ e :: after) (hd : d ∈ before) :
    x.name ≠ d := by
  rintro rfl
  obtain ⟨s, hs⟩ := Hierarchy.exists_extends_of_climb_eq hchain hd
  have hnone : p.image.getClass? x.name = none := h.fresh
  rw [Hierarchy.Extends, p.hierarchy_eq, h.filed.superclass?_ofImage, hnone] at hs
  cases hs

/-! ## Resolving calls -/

theorem declares_mono (h : p.Adds x q) (hd : p.Declares name m) : q.Declares name m := by
  obtain ⟨c, hc, hmethod⟩ := hd
  exact ⟨c, h.getClass?_mono hc, hmethod⟩

theorem declares_of_ne (h : p.Adds x q) (hname : x.name ≠ name) (hd : q.Declares name m) :
    p.Declares name m := by
  obtain ⟨c, hc, hmethod⟩ := hd
  exact ⟨c, (h.getClass?_of_ne hname).symm.trans hc, hmethod⟩

/-- A climb that stopped at a class stops there still. -/
theorem settlesOn_mono (h : p.Adds x q) (hname : p.SettlesOn callee name) :
    q.SettlesOn callee name := by
  obtain ⟨before, after, hclimbs, hstop, hbefore⟩ := hname
  have hchain := Hierarchy.climbs_nil_iff.mp hclimbs
  obtain ⟨rest, hrest⟩ := h.superclassChain_isPrefix callee.owner
  rw [hchain, List.append_assoc, List.cons_append] at hrest
  refine ⟨before, after ++ rest, Hierarchy.climbs_nil_iff.mpr hrest.symm, ?_, fun d hd => ?_⟩
  · rw [h.isFramework_eq]
    exact hstop.imp_right h.declares_mono
  · -- only the class that is added gains methods, and it is none of those passed over
    obtain ⟨hframework, hdeclares⟩ := hbefore d hd
    rw [h.isFramework_eq]
    exact ⟨hframework, fun hd' =>
      hdeclares (h.declares_of_ne (h.name_ne_of_mem_before hchain hd) hd')⟩

/-- A call that is resolved stays resolved to the same. -/
theorem resolve_mono (h : p.Adds x q) {r : Resolution} (hr : p.resolve callee = r)
    (hne : r ≠ .unresolved) : q.resolve callee = r := by
  cases r with
  | method target =>
    obtain ⟨name, hname, hframework, htarget⟩ := resolve_eq_method_iff.mp hr
    exact resolve_eq_method_iff.mpr
      ⟨name, h.settlesOn_mono hname, (h.isFramework_eq name).trans hframework, htarget⟩
  | framework target =>
    obtain ⟨name, hname, hframework, htarget⟩ := resolve_eq_framework_iff.mp hr
    exact resolve_eq_framework_iff.mpr
      ⟨name, h.settlesOn_mono hname, (h.isFramework_eq name).trans hframework, htarget⟩
  | unresolved => exact absurd rfl hne

theorem registration?_mono (h : p.Adds x q) {r : MethodRef × Std.ExtTreeMap Position MethodRef}
    (hr : p.registration? table callee = some r) : q.registration? table callee = some r :=
  (h.superclassChain_isPrefix callee.owner).findSome?_eq_some hr

/-! ## Block graphs -/

theorem graph?_mono (h : p.Adds x q) (hg : p.graph? m = some g) : q.graph? m = some g := by
  rw [graph?_eq_of_filed h.filed] at hg
  rw [graph?_eq_of_filed h.filed_right, h.isFramework_eq]
  split at hg
  · cases hg
  · next hframework =>
    obtain ⟨c, hc, hbody⟩ := Option.bind_eq_some_iff.mp hg
    rw [if_neg hframework, h.getClass?_mono hc, Option.bind_some, hbody]

theorem hasBody_mono (h : p.Adds x q) (hm : p.HasBody m) : q.HasBody m := by
  obtain ⟨g, hg, hblocks⟩ := hm
  exact ⟨g, h.graph?_mono hg, hblocks⟩

theorem hasEntry_mono (h : p.Adds x q) (hm : p.hasEntry m = true) : q.hasEntry m = true :=
  hasEntry_iff.mpr (h.hasBody_mono (hasEntry_iff.mp hm))

theorem graphList_subperm (h : p.Adds x q) : p.graphList <+~ q.graphList := by
  -- a method has one graph, so inclusion is enough
  have hnodup : (p.graphList.map Prod.fst).Nodup := by
    rw [graphList, Std.ExtTreeMap.map_fst_toList_eq_keys]
    exact Std.ExtTreeMap.nodup_keys
  refine List.subperm_of_subset (hnodup.of_map _) ?_
  rintro ⟨m, g⟩ hmem
  exact mem_graphList.mpr (h.graph?_mono (mem_graphList.mp hmem))

theorem invocations_subperm (h : p.Adds x q) : p.invocations <+~ q.invocations :=
  subperm_flatMap h.graphList_subperm fun _ _ => .refl _

/-! ## The edges of a call -/

theorem overrides_subset (h : p.Adds x q) (m : MethodRef) : p.overrides m ⊆ q.overrides m := by
  intro o ho
  obtain ⟨hmem, hentry⟩ := List.mem_filter.mp ho
  exact List.mem_filter.mpr
    ⟨List.map_subset _ (h.descendants_subset m.owner) hmem, h.hasEntry_mono hentry⟩

theorem explicitTargets_subset (h : p.Adds x q) (callee : MethodRef) :
    p.explicitTargets callee ⊆ q.explicitTargets callee := by
  rw [explicitTargets]
  split
  -- a call that was not resolved had no targets, whatever it is resolved to now
  next => exact List.nil_subset _
  next target hr =>
    rw [explicitTargets, h.resolve_mono hr (by simp)]
    exact List.Subset.refl _
  next target hr =>
    rw [explicitTargets, h.resolve_mono hr (by simp)]
    exact List.cons_subset_cons _ (List.map_subset _ (h.overrides_subset target))

theorem targetNode?_mono (h : p.Adds x q) (hn : p.targetNode? (m, kind) = some n) :
    q.targetNode? (m, kind) = some n := by
  rw [targetNode?_eq_some_iff] at hn ⊢
  rcases hn with hn | ⟨hkind, hbody, hn⟩
  · exact .inl hn
  · exact .inr ⟨hkind, h.hasBody_mono hbody, hn⟩

theorem explicitCalls_subperm (h : p.Adds x q) (i : Invocation) :
    p.explicitCalls i <+~ q.explicitCalls i := by
  refine List.subperm_of_subset (p.nodup_explicitCalls i) fun e he => ?_
  obtain ⟨⟨m, kind⟩, hm, hnode⟩ := List.mem_filterMap.mp he
  obtain ⟨n, hn, rfl⟩ := Option.map_eq_some_iff.mp hnode
  exact List.mem_filterMap.mpr
    ⟨(m, kind), h.explicitTargets_subset i.callee hm, by rw [h.targetNode?_mono hn]; rfl⟩

theorem resolvedCalls_subset (h : p.Adds x q) (i : Invocation) :
    p.resolvedCalls i ⊆ q.resolvedCalls i :=
  List.map_subset _ (h.explicitTargets_subset i.callee)

theorem callbackCandidates_subset (h : p.Adds x q) (caller : String) (position : Position)
    (callback : MethodRef) :
    p.callbackCandidates caller position callback ⊆
      q.callbackCandidates caller position callback := by
  cases position with
  | receiver => exact List.Subset.refl _
  | argument index => exact List.map_subset _ (h.descendants_subset callback.owner)
  | type name => exact List.map_subset _ (h.descendants_subset name)

theorem implicitTargets_subperm (h : p.Adds x q) (table : RegistrationTable) (i : Invocation) :
    p.implicitTargets table i <+~ q.implicitTargets table i := by
  rw [implicitTargets]
  split
  next => exact List.nil_subperm
  next registration callbacks hr =>
    rw [implicitTargets, h.registration?_mono hr]
    refine subperm_flatMap (.refl _) ?_
    rintro ⟨position, callback⟩ -
    have hnodup := (p.nodup_callbackCandidates i.caller.owner position callback).filter p.hasEntry
    refine List.subperm_of_subset (hnodup.map fun m m' h => congrArg Prod.snd h) ?_
    refine List.map_subset _ fun m hm => ?_
    obtain ⟨hcandidate, hentry⟩ := List.mem_filter.mp hm
    exact List.mem_filter.mpr
      ⟨h.callbackCandidates_subset _ _ _ hcandidate, h.hasEntry_mono hentry⟩

theorem callsOf_subperm (h : p.Adds x q) (table : Option RegistrationTable) (i : Invocation) :
    p.callsOf table i <+~ q.callsOf table i := by
  refine (h.explicitCalls_subperm i).append ?_
  cases table with
  | none => exact .refl _
  | some table =>
    obtain ⟨targets, hperm, hsub⟩ := h.implicitTargets_subperm table i
    exact ⟨_, hperm.map _, hsub.map _⟩

end Adds

end Program

namespace CallGraph

/-- **A partial image gives a part of the call graph**: when a class is added whose name had no
definition, every edge occurs at least as often as before, and every resolved call remains. -/
theorem build_addClass {classes : List ClassDef} {boundary : Boundary} {p : Program}
    (table : Option RegistrationTable) (x : ClassDef)
    (hp : Program.ofImage? (.ofClasses classes) boundary = some p)
    (hx : (Image.ofClasses classes).getClass? x.name = none) :
    ∃ q, Program.ofImage? ((Image.ofClasses classes).addClass x) boundary = some q ∧
      (∀ e, (build p table).calls.count e ≤ (build q table).calls.count e) ∧
      ∀ r ∈ (build p table).resolved, r ∈ (build q table).resolved := by
  obtain ⟨himage, hboundary⟩ := Program.ofImage?_eq_some_iff.mp hp
  obtain ⟨q, hq⟩ : ∃ q, Program.ofImage? ((Image.ofClasses classes).addClass x) boundary = some q :=
    Program.exists_ofImage?_eq_some (Image.isEmpty_addClass _ _) boundary
  obtain ⟨himage', hboundary'⟩ := Program.ofImage?_eq_some_iff.mp hq
  have hadds : p.Adds x q :=
    { filed := himage ▸ Image.filed_ofClasses classes
      fresh := by rw [Program.getClass?, himage, hx]
      image_eq := by rw [himage', himage]
      boundary_eq := by rw [hboundary', hboundary] }
  refine ⟨q, hq, fun e => ?_, fun r hr => ?_⟩
  · rw [calls_build, calls_build]
    have hcalls := subperm_flatMap hadds.invocations_subperm fun i _ =>
      hadds.callsOf_subperm table i
    exact hcalls.count_le e
  · obtain ⟨i, hi, hr⟩ := List.mem_flatMap.mp hr
    exact List.mem_flatMap.mpr
      ⟨i, hadds.invocations_subperm.subset hi, hadds.resolvedCalls_subset i hr⟩

/-- A program whose class `B` extends a class `A` without definition; `C` extends `B`. -/
def partialClasses : List ClassDef :=
  let calls : List Instruction := [.plain .entry 2 (.invoke ⟨"B", "m", "()V"⟩),
    .plain ⟨2⟩ 2 (.invoke ⟨"A", "m", "()V"⟩)]
  [⟨"Main", none, [], [⟨"main", "()V", some ⟨calls, [], by decide⟩⟩], []⟩,
    ⟨"B", some "A", [], [.returning "m"], []⟩,
    ⟨"C", some "B", [], [.returning "m"], []⟩]

/-- The definition of `A`, which closes a cycle. -/
def missingClass : ClassDef := ⟨"A", some "C", [], [.returning "m"], []⟩

/-- The program of the classes without `A`. -/
def partialProgram : Program :=
  .ofNonempty (.ofClasses partialClasses) .none (by decide +kernel)

/-- The call of `B.m` reaches `B` and `C` without the definition of `A`, and still does with it. -/
theorem build_addClass_missingClass :
    Program.ofImage? (.ofClasses partialClasses) .none = some partialProgram ∧
      (Image.ofClasses partialClasses).getClass? missingClass.name = none ∧
      (build partialProgram none).calls.map (·.target.method.owner) = ["B", "C"] ∧
      ∃ q,
        Program.ofImage? ((Image.ofClasses partialClasses).addClass missingClass) .none = some q ∧
        (∀ e, (build partialProgram none).calls.count e ≤ (build q none).calls.count e) ∧
        ∀ r ∈ (build partialProgram none).resolved, r ∈ (build q none).resolved := by
  have hp : Program.ofImage? (.ofClasses partialClasses) .none = some partialProgram :=
    Program.ofImage?_eq_some_iff.mpr ⟨rfl, rfl⟩
  have hx : (Image.ofClasses partialClasses).getClass? missingClass.name = none := by decide +kernel
  exact ⟨hp, hx, by decide +kernel, build_addClass none missingClass hp hx⟩

end CallGraph

end CallAtlas
