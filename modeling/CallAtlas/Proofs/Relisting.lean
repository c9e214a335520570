import CallAtlas.Proofs.Alike
import Mathlib.Data.List.Find

/-!
# Listing order does not matter

The classes of an image may be added in any order, and a class may list its interfaces, methods and
fields in any order. Links are then made in another order, and names without definition are met in
another order, but nothing of this reaches the analysis: classes are looked up by name and methods by
reference, the classes below a class are visited by name at every level of the search, and a chain
follows the one superclass of each class. So the call graph has the same edges in the same order,
and the cross references are the same.

Methods that change places must be told apart by their references, since of two bodies of one method
the later counts.

## Main definitions

* `ClassDef.Relists`, `ClassDef.RelistsAll`: the same classes, listed in another order
* `Image.Relists`, `Program.Relists`: the same for images and programs

## Main results

* `Image.getClass?_ofClasses`, `Image.relists_ofClasses`: images that classes are added to
* `Program.Relists.descendants_eq`, `Program.Relists.superclassChain_eq`: the hierarchy as the
  analysis sees it
* `Program.Relists.graph?_eq`, `Program.Relists.resolveOn_eq`: bodies and declarations
* `CallGraph.link_build_eq_of_relistsAll`: listing order does not matter
-/

namespace CallAtlas

open scoped List

/-! ## Classes that list the same -/

namespace ClassDef

variable {c d : ClassDef}

/-- Two definitions of a class list the same interfaces, methods and fields, in whatever order. -/
structure Relists (c d : ClassDef) : Prop where
  name_eq : c.name = d.name
  superclass_eq : c.superclass = d.superclass
  interfaces_perm : c.interfaces ~ d.interfaces
  methods_perm : c.methods ~ d.methods
  fields_perm : c.fields ~ d.fields
  /-- Methods change places only if no two of them have the same name and descriptor. -/
  methods_distinct : c.methods = d.methods ∨ (c.methods.map c.methodRef).Nodup

/-- Two lists hold the same classes, in whatever order, and each class lists the same. -/
def RelistsAll (classes classes' : List ClassDef) : Prop :=
  ∃ listed, listed ~ classes ∧ List.Forall₂ Relists listed classes'

theorem methodRef_congr (h : c.name = d.name) : c.methodRef = d.methodRef := by
  funext m
  rw [methodRef, methodRef, h]

namespace Relists

theorem symm (h : c.Relists d) : d.Relists c where
  name_eq := h.name_eq.symm
  superclass_eq := h.superclass_eq.symm
  interfaces_perm := h.interfaces_perm.symm
  methods_perm := h.methods_perm.symm
  fields_perm := h.fields_perm.symm
  methods_distinct := by
    rcases h.methods_distinct with heq | hnodup
    · exact .inl heq.symm
    · right
      rw [← methodRef_congr h.name_eq]
      exact (h.methods_perm.map c.methodRef).nodup_iff.mp hnodup

theorem parents_perm (h : c.Relists d) : c.parents ~ d.parents := by
  rw [parents, parents, h.superclass_eq]
  exact h.interfaces_perm.append_left _

theorem bodies_perm (h : c.Relists d) : c.bodies ~ d.bodies := by
  rw [bodies, bodies, methodRef_congr h.name_eq]
  exact h.methods_perm.filterMap _

end Relists

/-- Methods with references of their own have at most one body each. -/
theorem nodup_map_fst_bodies (h : (c.methods.map c.methodRef).Nodup) :
    (c.bodies.map Prod.fst).Nodup := by
  refine List.pairwise_map.mpr (List.pairwise_filterMap.mpr ?_)
  refine (List.pairwise_map.mp h).imp ?_
  intro m m' hne body hbody body' hbody'
  obtain ⟨code, -, rfl⟩ := Option.map_eq_some_iff.mp hbody
  obtain ⟨code', -, rfl⟩ := Option.map_eq_some_iff.mp hbody'
  exact hne

/-- The body that counts for a method is the same. -/
theorem Relists.find?_bodies_eq (h : c.Relists d) (m : MethodRef) :
    c.bodies.reverse.find? (·.1 = m) = d.bodies.reverse.find? (·.1 = m) := by
  rcases h.methods_distinct with heq | hnodup
  · have hbodies : c.bodies = d.bodies := by
      rw [bodies, bodies, heq, methodRef_congr h.name_eq]
    rw [hbodies]
  · have hperm : c.bodies.reverse ~ d.bodies.reverse :=
      c.bodies.reverse_perm.trans (h.bodies_perm.trans d.bodies.reverse_perm.symm)
    refine List.find?_eq_find?_of_perm hperm ?_
    rintro body ⟨hbody, hm⟩ body' ⟨hbody', hm'⟩
    refine List.inj_on_of_nodup_map (nodup_map_fst_bodies hnodup) (List.mem_reverse.mp hbody)
      (List.mem_reverse.mp hbody') ?_
    exact (of_decide_eq_true hm).trans (of_decide_eq_true hm').symm

end ClassDef

/-! ## Images that list the same -/

namespace Image

variable {image image' : Image} {classes classes' : List ClassDef} {key d c : String}

/-- Two images file the same classes, and each class lists the same. -/
def Relists (image image' : Image) : Prop :=
  ∀ key, Option.Rel ClassDef.Relists (image.getClass? key) (image'.getClass? key)

/-- The first class of a name is kept. -/
theorem getClass?_ofClasses (classes : List ClassDef) (key : String) :
    (ofClasses classes).getClass? key = classes.find? (·.name = key) := by
  have hfold : (ofClasses classes).classes =
      classes.foldl (fun table c => table.insertIfNew c.name c) ∅ :=
    (List.foldl_hom Image.classes fun _ _ => rfl).symm
  rw [getClass?, hfold, getElem?_foldl_insertIfNew, Std.ExtTreeMap.getElem?_empty, Option.none_or,
    Option.map_id_fun', id]

/-- Adding classes one by one in another order files the same classes, if their names differ. -/
theorem relists_ofClasses (hdistinct : (classes.map (·.name)).Nodup)
    (h : ClassDef.RelistsAll classes classes') :
    (ofClasses classes).Relists (ofClasses classes') := by
  intro key
  obtain ⟨listed, hperm, hlisted⟩ := h
  have hfind : classes.find? (·.name = key) = listed.find? (·.name = key) := by
    refine List.find?_eq_find?_of_perm hperm.symm ?_
    rintro c ⟨hc, hkey⟩ d ⟨hd, hkey'⟩
    exact List.inj_on_of_nodup_map hdistinct hc hd
      ((of_decide_eq_true hkey).trans (of_decide_eq_true hkey').symm)
  rw [getClass?_ofClasses, getClass?_ofClasses, hfind]
  -- classes in corresponding places have the same name, so the first ones of a name correspond
  clear hperm hfind
  induction hlisted with
  | nil => exact .none
  | @cons c d _ _ hcd _ ih =>
    rw [List.find?_cons, List.find?_cons, hcd.name_eq]
    cases decide (d.name = key) with
    | true => exact .some hcd
    | false => exact ih

namespace Relists

theorem cases (h : image.Relists image') (key : String) :
    (image.getClass? key = none ∧ image'.getClass? key = none) ∨
      ∃ c d, image.getClass? key = some c ∧ image'.getClass? key = some d ∧ c.Relists d :=
  getClass?_cases_of_rel h key

theorem symm (h : image.Relists image') : image'.Relists image := by
  intro key
  rcases h.cases key with ⟨hnone, hnone'⟩ | ⟨c, d, hc, hd, hcd⟩
  · rw [hnone, hnone']
    exact .none
  · rw [hc, hd]
    exact .some hcd.symm

theorem exists_mem_classList (h : image.Relists image') {cls : ClassDef}
    (hcls : cls ∈ image.classList) : ∃ cls' ∈ image'.classList, cls.Relists cls' := by
  obtain ⟨key, hkey⟩ := mem_classList.mp hcls
  rcases h.cases key with ⟨hnone, -⟩ | ⟨c, d, hc, hd, hcd⟩
  · rw [hnone] at hkey
    cases hkey
  · obtain rfl := Option.some.inj (hc.symm.trans hkey)
    exact ⟨d, mem_classList.mpr ⟨key, hd⟩, hcd⟩

/-- Links are a matter of what a class lists, not in which order. -/
theorem link_mono (h : image.Relists image') (hlink : image.Link d c) : image'.Link d c := by
  obtain ⟨cls, hcls, hname, hparent⟩ := hlink
  obtain ⟨cls', hcls', hrelists⟩ := h.exists_mem_classList hcls
  exact ⟨cls', hcls', hrelists.name_eq.symm.trans hname, hrelists.parents_perm.subset hparent⟩

theorem link_iff (h : image.Relists image') : image.Link d c ↔ image'.Link d c :=
  ⟨h.link_mono, h.symm.link_mono⟩

theorem isEmpty_eq_false (h : image.Relists image') (hne : image.isEmpty = false) :
    image'.isEmpty = false := by
  obtain ⟨key, cls, hcls⟩ := isEmpty_eq_false_iff.mp hne
  rcases h.cases key with ⟨hnone, -⟩ | ⟨_, d, -, hd, -⟩
  · cases hnone.symm.trans hcls
  · exact isEmpty_eq_false_iff.mpr ⟨key, d, hd⟩

end Relists

end Image

/-! ## Programs that list the same -/

namespace Program

variable {p q : Program} {m : MethodRef} {name : String}

/-- Two programs list the same classes behind the same boundary, filed by name. -/
structure Relists (p q : Program) : Prop where
  filed_left : p.image.Filed
  filed_right : q.image.Filed
  image_relists : p.image.Relists q.image
  boundary_eq : p.boundary = q.boundary

namespace Relists

theorem symm (h : p.Relists q) : q.Relists p :=
  ⟨h.filed_right, h.filed_left, h.image_relists.symm, h.boundary_eq.symm⟩

theorem isFramework_eq (h : p.Relists q) : p.isFramework = q.isFramework := by
  funext name
  rw [isFramework, isFramework, h.boundary_eq]

theorem size_nodes_le (h : p.Relists q) : p.hierarchy.nodes.size ≤ q.hierarchy.nodes.size := by
  rw [p.hierarchy_eq, q.hierarchy_eq]
  refine Hierarchy.size_nodes_ofImage_le ?_ fun _ _ => h.image_relists.link_mono
  intro cls hcls
  obtain ⟨cls', hcls', hrelists⟩ := h.image_relists.exists_mem_classList hcls
  exact ⟨cls', hcls', hrelists.name_eq.symm⟩

theorem size_nodes_eq (h : p.Relists q) : p.hierarchy.nodes.size = q.hierarchy.nodes.size :=
  Nat.le_antisymm h.size_nodes_le h.symm.size_nodes_le

/-- The classes below a class form a set, which does not depend on the order of the links. -/
theorem subclasses_eq (h : p.Relists q) (name : String) :
    p.hierarchy.subclasses name = q.hierarchy.subclasses name := by
  refine Std.ExtTreeSet.ext_mem fun d => ?_
  rw [p.hierarchy_eq, q.hierarchy_eq, Hierarchy.mem_subclasses_ofImage,
    Hierarchy.mem_subclasses_ofImage]
  exact h.image_relists.link_iff

/-- The search visits subclasses by name, so it takes the same way. -/
theorem descendants_eq (h : p.Relists q) : p.hierarchy.descendants = q.hierarchy.descendants := by
  funext name
  simp only [Hierarchy.descendants, h.subclasses_eq, h.size_nodes_eq]

theorem extends_mono (h : p.Relists q) {d c : String} (hextends : p.hierarchy.Extends d c) :
    q.hierarchy.Extends d c := by
  rw [Hierarchy.Extends, p.hierarchy_eq, h.filed_left.superclass?_ofImage] at hextends
  rw [Hierarchy.Extends, q.hierarchy_eq, h.filed_right.superclass?_ofImage]
  obtain ⟨cls, hcls, hsuper⟩ := Option.bind_eq_some_iff.mp hextends
  rcases h.image_relists.cases d with ⟨hnone, -⟩ | ⟨cls, cls', hleft, hright, hrelists⟩
  · cases hnone.symm.trans hcls
  · obtain rfl := Option.some.inj (hleft.symm.trans hcls)
    rw [hright, Option.bind_some, ← hrelists.superclass_eq, hsuper]

theorem superclassChain_isPrefix (h : p.Relists q) (name : String) :
    p.hierarchy.superclassChain name <+: q.hierarchy.superclassChain name :=
  Hierarchy.climb_isPrefix_of_extends (fun _ _ => h.extends_mono) (List.Subset.refl _)
    (Nat.succ_le_succ h.size_nodes_le)

/-- Each chain goes at least as far as the other. -/
theorem superclassChain_eq (h : p.Relists q) :
    p.hierarchy.superclassChain = q.hierarchy.superclassChain := by
  funext name
  exact (h.superclassChain_isPrefix name).eq_of_length_le
    (h.symm.superclassChain_isPrefix name).length_le

/-- A method has the same body, hence the same block graph. -/
theorem graph?_eq (h : p.Relists q) (m : MethodRef) : p.graph? m = q.graph? m := by
  rw [graph?_eq_of_filed h.filed_left, graph?_eq_of_filed h.filed_right, h.isFramework_eq]
  rcases h.image_relists.cases m.owner with ⟨hnone, hnone'⟩ | ⟨c, d, hc, hd, hcd⟩
  · rw [getClass?, getClass?, hnone, hnone']
  · rw [getClass?, getClass?, hc, hd, Option.bind_some, Option.bind_some, hcd.find?_bodies_eq]

theorem declares_mono (h : p.Relists q) (hm : p.Declares name m) : q.Declares name m := by
  obtain ⟨c, hc, method, hmethod, hmatch⟩ := hm
  rcases h.image_relists.cases name with ⟨hnone, -⟩ | ⟨c', d, hc', hd, hcd⟩
  · cases hnone.symm.trans hc
  · obtain rfl := Option.some.inj (hc'.symm.trans hc)
    exact ⟨d, hd, method, hcd.methods_perm.subset hmethod, hmatch⟩

/-- What a class says about a call depends on which methods it declares. -/
theorem resolveOn_eq (h : p.Relists q) : p.resolveOn = q.resolveOn := by
  funext callee name
  have hdeclared : (p.findMethod? (callee.withOwner name)).isSome =
      (q.findMethod? (callee.withOwner name)).isSome := by
    rw [Bool.eq_iff_iff, findMethod?_isSome_iff, findMethod?_isSome_iff]
    exact ⟨h.declares_mono, h.symm.declares_mono⟩
  rw [resolveOn, resolveOn, h.isFramework_eq, hdeclared]

theorem isSome_findField?_eq (h : p.Relists q) (f : FieldRef) :
    (p.findField? f).isSome = (q.findField? f).isSome := by
  rw [findField?, findField?, Image.findField?, Image.findField?]
  rcases h.image_relists.cases f.owner with ⟨hnone, hnone'⟩ | ⟨c, d, hc, hd, hcd⟩
  · rw [hnone, hnone']
  · rw [hc, hd, Option.bind_some, Option.bind_some, Bool.eq_iff_iff, ClassDef.findField?,
      ClassDef.findField?, List.find?_isSome, List.find?_isSome]
    simp only [hcd.fields_perm.mem_iff]

/-- Programs that list the same look the same. -/
theorem alike (h : p.Relists q) : p.Alike q where
  superclassChain_eq := h.superclassChain_eq
  descendants_eq := h.descendants_eq
  graphs_eq := Std.ExtTreeMap.ext_getElem? h.graph?_eq
  resolveOn_eq := h.resolveOn_eq
  isNone_getClass? := Image.isNone_getClass?_eq_of_rel h.image_relists
  isSome_findField? := h.isSome_findField?_eq

end Relists

end Program

/-! ## The results of the analysis -/

namespace CallGraph

/-- **Listing order does not matter**: if the same classes are added in another order, and their
interfaces, methods and fields are listed in another order, the call graph is the same, its edges in
the same order, also with the lifecycles of components; and so are the cross references. -/
theorem link_build_eq_of_relistsAll {classes classes' : List ClassDef} {boundary : Boundary}
    {p : Program} (table : Option RegistrationTable) (components : ComponentTable)
    (hdistinct : (classes.map (·.name)).Nodup) (hrelists : ClassDef.RelistsAll classes classes')
    (hp : Program.ofImage? (.ofClasses classes) boundary = some p) :
    ∃ q, Program.ofImage? (.ofClasses classes') boundary = some q ∧
      build p table = build q table ∧
      (build p table).link p components = (build q table).link q components ∧
      ∀ g, XrefIndex.build p g = XrefIndex.build q g := by
  have himages := Image.relists_ofClasses hdistinct hrelists
  obtain ⟨himage, hboundary⟩ := Program.ofImage?_eq_some_iff.mp hp
  have hnonempty : (Image.ofClasses classes').isEmpty = false := by
    apply himages.isEmpty_eq_false
    rw [← himage]
    exact p.nonempty
  obtain ⟨q, hq⟩ := Program.exists_ofImage?_eq_some hnonempty boundary
  obtain ⟨himage', hboundary'⟩ := Program.ofImage?_eq_some_iff.mp hq
  have hprograms : p.Relists q :=
    { filed_left := himage ▸ Image.filed_ofClasses classes
      filed_right := himage' ▸ Image.filed_ofClasses classes'
      image_relists := by rwa [himage, himage']
      boundary_eq := hboundary.trans hboundary'.symm }
  have hbuild := hprograms.alike.build_eq table
  refine ⟨q, hq, hbuild, ?_, hprograms.alike.xref_eq⟩
  rw [hbuild, hprograms.alike.link_eq]

/-- The method `run` of the class `Canvas` draws a shape. -/
def canvasClass : ClassDef :=
  let call : Instruction := .plain .entry 6 (.invoke ⟨"Shape", "draw", "()V"⟩)
  ⟨"Canvas", none, [], [⟨"run", "()V", some ⟨[call], [], by decide⟩⟩, .returning "clear"], []⟩

/-- The class `Shape`, which circles and squares implement. -/
def shapeClass : ClassDef := ⟨"Shape", none, [], [.returning "draw"], []⟩

/-- A class of shapes that has a name as well. -/
def namedShape (name : String) : ClassDef :=
  ⟨name, none, ["Named", "Shape"], [.returning "draw", .returning "title"],
    [⟨"left", "I"⟩, ⟨"top", "I"⟩]⟩

/-- The same class, with everything listed the other way round. -/
def reversedShape (name : String) : ClassDef :=
  ⟨name, none, ["Shape", "Named"], [.returning "title", .returning "draw"],
    [⟨"top", "I"⟩, ⟨"left", "I"⟩]⟩

/-- The classes of a program that draws shapes. -/
def canvasClasses : List ClassDef :=
  [canvasClass, shapeClass, namedShape "Square", namedShape "Circle"]

/-- The same classes in another order, some of them with everything listed the other way round. -/
def relistedClasses : List ClassDef :=
  [reversedShape "Circle", canvasClass, reversedShape "Square", shapeClass]

/-- The program that draws shapes. -/
def canvasProgram : Program :=
  .ofNonempty (.ofClasses canvasClasses) .none (Image.isEmpty_addClass _ _)

theorem namedShape_relists (name : String) : (namedShape name).Relists (reversedShape name) where
  name_eq := rfl
  superclass_eq := rfl
  interfaces_perm := .swap ..
  methods_perm := .swap ..
  fields_perm := .swap ..
  methods_distinct := by
    right
    simp [namedShape, ClassDef.methodRef, Method.returning]

theorem canvasClasses_relists : ClassDef.RelistsAll canvasClasses relistedClasses := by
  have hsame : ∀ c : ClassDef, c.Relists c := by
    intro c
    exact ⟨rfl, rfl, .refl _, .refl _, .refl _, .inl rfl⟩
  refine ⟨[namedShape "Circle", canvasClass, namedShape "Square", shapeClass], ?_, ?_⟩
  · decide +kernel
  · exact .cons (namedShape_relists _) (.cons (hsame _) (.cons (namedShape_relists _)
      (.cons (hsame _) .nil)))

/-- In whatever order the canvas and its shapes are listed, drawing a shape reaches the method of
`Shape`, then that of the circle, then that of the square. -/
theorem link_build_eq_of_relistsAll_canvas :
    (canvasClasses.map (·.name)).Nodup ∧
      ClassDef.RelistsAll canvasClasses relistedClasses ∧
      Program.ofImage? (.ofClasses canvasClasses) .none = some canvasProgram ∧
      (build canvasProgram none).calls.map (·.target.method.owner) =
        ["Shape", "Circle", "Square"] ∧
      ∃ q, Program.ofImage? (.ofClasses relistedClasses) .none = some q ∧
        build canvasProgram none = build q none ∧
        (build canvasProgram none).link canvasProgram .empty = (build q none).link q .empty ∧
        ∀ g, XrefIndex.build canvasProgram g = XrefIndex.build q g := by
  have hdistinct : (canvasClasses.map (·.name)).Nodup := by decide
  have hp : Program.ofImage? (.ofClasses canvasClasses) .none = some canvasProgram :=
    Program.ofImage?_eq_some_iff.mpr ⟨rfl, rfl⟩
  exact ⟨hdistinct, canvasClasses_relists, hp, by decide +kernel,
    link_build_eq_of_relistsAll none .empty hdistinct canvasClasses_relists hp⟩

end CallGraph

end CallAtlas
