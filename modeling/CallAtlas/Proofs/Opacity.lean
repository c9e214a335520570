import CallAtlas.Proofs.Alike

/-!
# Framework code is opaque

The methods that an image defines for framework classes have no influence on the analysis. The
hierarchy only takes names and parents from a class definition, block graphs are made of the
application only, and a climb stops at a framework class before its methods are looked at. So two
images that differ in nothing but the methods of framework classes have the same call graph, also
with the lifecycles of components, and the same cross references.

## Main definitions

* `Image.AgreeOutside`: two images differ at most in the methods of framework classes
* `Image.hideFramework`: an image without the methods of framework classes

## Main results

* `Hierarchy.ofImage_hideFramework`, `Image.bodies_hideFramework`: hierarchy and bodies do not
  depend on the methods of framework classes
* `Program.alike_of_agreeOutside`: programs of such images look the same
* `CallGraph.link_build_eq_of_agreeOutside`: such images have the same results
-/

namespace CallAtlas

/-! ## Images that differ in framework methods -/

/-- Two definitions of a class are the same, but for the methods of a framework class. -/
structure ClassDef.AgreeOutside (boundary : Boundary) (c d : ClassDef) : Prop where
  name_eq : c.name = d.name
  superclass_eq : c.superclass = d.superclass
  interfaces_eq : c.interfaces = d.interfaces
  fields_eq : c.fields = d.fields
  methods_eq : boundary.contains c.name = false → c.methods = d.methods

/-- Two images define the same classes, and differ at most in the methods of framework classes. -/
def Image.AgreeOutside (boundary : Boundary) (image image' : Image) : Prop :=
  ∀ key, Option.Rel (ClassDef.AgreeOutside boundary) (image.getClass? key) (image'.getClass? key)

/-- A class definition without its methods, if it belongs to the framework. -/
def ClassDef.hideFramework (boundary : Boundary) (c : ClassDef) : ClassDef :=
  if boundary.contains c.name then { c with methods := [] } else c

/-- An image without the methods of framework classes. -/
def Image.hideFramework (boundary : Boundary) (image : Image) : Image :=
  ⟨image.classes.map fun _ c => c.hideFramework boundary⟩

namespace ClassDef

variable {boundary : Boundary} {c d : ClassDef}

@[simp] theorem name_hideFramework : (c.hideFramework boundary).name = c.name := by
  unfold hideFramework
  split <;> rfl

@[simp] theorem superclass_hideFramework :
    (c.hideFramework boundary).superclass = c.superclass := by
  unfold hideFramework
  split <;> rfl

@[simp] theorem interfaces_hideFramework :
    (c.hideFramework boundary).interfaces = c.interfaces := by
  unfold hideFramework
  split <;> rfl

theorem hideFramework_of_application (h : boundary.contains c.name = false) :
    c.hideFramework boundary = c := by
  rw [hideFramework, if_neg (by simp [h])]

/-- Once the methods of the framework are left out, no difference remains. -/
theorem AgreeOutside.hideFramework_eq (h : AgreeOutside boundary c d) :
    c.hideFramework boundary = d.hideFramework boundary := by
  obtain ⟨name, superclass, interfaces, methods, fields⟩ := c
  obtain ⟨name', superclass', interfaces', methods', fields'⟩ := d
  obtain ⟨hname, hsuperclass, hinterfaces, hfields, hmethods⟩ := h
  dsimp only at hname hsuperclass hinterfaces hfields hmethods
  subst hname hsuperclass hinterfaces hfields
  cases hframework : boundary.contains name with
  | true => simp only [hideFramework, hframework, if_true]
  | false => rw [hmethods hframework]

end ClassDef

namespace Image

variable {boundary : Boundary} {image image' : Image} {classes classes' : List ClassDef}

theorem AgreeOutside.cases (h : AgreeOutside boundary image image') (key : String) :
    (image.getClass? key = none ∧ image'.getClass? key = none) ∨
      ∃ c d, image.getClass? key = some c ∧ image'.getClass? key = some d ∧
        c.AgreeOutside boundary d :=
  getClass?_cases_of_rel h key

theorem AgreeOutside.hideFramework_eq (h : AgreeOutside boundary image image') :
    image.hideFramework boundary = image'.hideFramework boundary := by
  refine congrArg Image.mk (Std.ExtTreeMap.ext_getElem? fun key => ?_)
  rw [Std.ExtTreeMap.getElem?_map, Std.ExtTreeMap.getElem?_map]
  change (image.getClass? key).map _ = (image'.getClass? key).map _
  rcases h.cases key with ⟨hnone, hnone'⟩ | ⟨c, d, hc, hd, hagree⟩
  · rw [hnone, hnone', Option.map_none]
  · rw [hc, hd, Option.map_some, Option.map_some, hagree.hideFramework_eq]

theorem AgreeOutside.addClass {c d : ClassDef} (h : AgreeOutside boundary image image')
    (hc : c.AgreeOutside boundary d) :
    AgreeOutside boundary (image.addClass c) (image'.addClass d) := by
  intro key
  rw [getClass?_addClass, getClass?_addClass, hc.name_eq]
  rcases h.cases key with ⟨hnone, hnone'⟩ | ⟨c', d', hc', hd', hagree⟩
  · rw [hnone, hnone', Option.none_or, Option.none_or]
    split
    · exact .some hc
    · exact .none
  · rw [hc', hd', Option.some_or, Option.some_or]
    exact .some hagree

/-- Adding classes one by one that differ in framework methods gives images that do. -/
theorem agreeOutside_ofClasses
    (h : List.Forall₂ (ClassDef.AgreeOutside boundary) classes classes') :
    AgreeOutside boundary (ofClasses classes) (ofClasses classes') := by
  have hfold : ∀ image image' : Image, AgreeOutside boundary image image' →
      AgreeOutside boundary (classes.foldl Image.addClass image)
        (classes'.foldl Image.addClass image') := by
    induction h with
    | nil => exact fun image image' hagree => hagree
    | cons hc _ ih => exact fun image image' hagree => ih _ _ (hagree.addClass hc)
  refine hfold empty empty fun key => ?_
  have hnone : empty.getClass? key = none := Std.ExtTreeMap.getElem?_empty
  rw [hnone]
  exact .none

theorem classList_hideFramework :
    (image.hideFramework boundary).classList = image.classList.map (·.hideFramework boundary) := by
  rw [classList, classList, values_eq_map_toList, values_eq_map_toList, hideFramework,
    Std.ExtTreeMap.toList_map, List.map_map, List.map_map]
  rfl

theorem links_hideFramework : (image.hideFramework boundary).links = image.links := by
  have hlinks : ∀ c : ClassDef, (c.hideFramework boundary).links = c.links := by
    intro c
    simp [ClassDef.links]
  rw [links, links, classList_hideFramework, List.flatMap_map]
  simp only [hlinks]

/-- Bodies are those of the application. -/
theorem bodies_hideFramework :
    (image.hideFramework boundary).bodies boundary = image.bodies boundary := by
  have happlication : (image.hideFramework boundary).applicationClasses boundary =
      image.applicationClasses boundary := by
    rw [applicationClasses, applicationClasses, classList_hideFramework, List.filter_map,
      List.map_congr_left (g := id), List.map_id]
    · simp [Function.comp_def]
    · intro c hc
      exact ClassDef.hideFramework_of_application (by simpa using (List.mem_filter.mp hc).2)
  rw [bodies, bodies, happlication]

end Image

/-- The hierarchy takes no methods from a class. -/
theorem Hierarchy.ofImage_hideFramework {boundary : Boundary} {image : Image} :
    ofImage (image.hideFramework boundary) boundary = ofImage image boundary := by
  have hdefined : definedNodes (image.hideFramework boundary) boundary =
      definedNodes image boundary := by
    rw [definedNodes, definedNodes, Image.classList_hideFramework, List.foldl_map]
    simp [definedNode]
  have hcount : (image.hideFramework boundary).classCount = image.classCount :=
    Std.ExtTreeMap.size_map
  simp only [ofImage, allNodes, Image.links_hideFramework, hdefined, hcount]

/-! ## Programs that look the same -/

namespace Program

variable {p q : Program}

/-- The class that is looked up under a name of the application belongs to the application, so its
methods are the same. -/
theorem findMethod?_eq_of_agreeOutside {m : MethodRef} {name : String} (hfiled : p.image.Filed)
    (hagree : Image.AgreeOutside p.boundary p.image q.image) (hname : p.isFramework name = false) :
    p.findMethod? (m.withOwner name) = q.findMethod? (m.withOwner name) := by
  change (p.image.getClass? name).bind _ = (q.image.getClass? name).bind _
  rcases hagree.cases name with ⟨hnone, hnone'⟩ | ⟨c, d, hc, hd, hcd⟩
  · rw [hnone, hnone']
  · have hmethods : c.methods = d.methods := by
      apply hcd.methods_eq
      rw [hfiled name c hc]
      exact hname
    rw [hc, hd, Option.bind_some, Option.bind_some, ClassDef.findMethod?, ClassDef.findMethod?,
      hmethods]

/-- The hierarchy is that of the image in which the framework methods are hidden. -/
theorem hierarchy_eq_of_agreeOutside (hboundary : p.boundary = q.boundary)
    (hagree : Image.AgreeOutside p.boundary p.image q.image) : p.hierarchy = q.hierarchy := by
  rw [p.hierarchy_eq, q.hierarchy_eq, ← hboundary, ← Hierarchy.ofImage_hideFramework,
    hagree.hideFramework_eq, Hierarchy.ofImage_hideFramework]

/-- Programs whose images differ in the methods of framework classes only look the same. -/
theorem alike_of_agreeOutside (hfiled : p.image.Filed) (hboundary : p.boundary = q.boundary)
    (hagree : Image.AgreeOutside p.boundary p.image q.image) : p.Alike q where
  superclassChain_eq := by rw [hierarchy_eq_of_agreeOutside hboundary hagree]
  descendants_eq := by rw [hierarchy_eq_of_agreeOutside hboundary hagree]
  -- no block graph is made of a method that is hidden
  graphs_eq := by
    rw [p.graphs_eq, q.graphs_eq, ← hboundary, ← Image.bodies_hideFramework,
      hagree.hideFramework_eq, Image.bodies_hideFramework]
  resolveOn_eq := by
    funext callee name
    have hsame : q.isFramework name = p.isFramework name := by
      rw [isFramework, isFramework, hboundary]
    rw [resolveOn, resolveOn, hsame]
    -- the boundary is asked before a method is looked up
    cases hframework : p.isFramework name with
    | true => rfl
    | false => rw [findMethod?_eq_of_agreeOutside hfiled hagree hframework]
  isNone_getClass? := Image.isNone_getClass?_eq_of_rel hagree
  isSome_findField? f := by
    rw [findField?, findField?, Image.findField?, Image.findField?]
    rcases hagree.cases f.owner with ⟨hnone, hnone'⟩ | ⟨c, d, hc, hd, hcd⟩
    · rw [hnone, hnone']
    · rw [hc, hd, Option.bind_some, Option.bind_some, ClassDef.findField?, ClassDef.findField?,
        hcd.fields_eq]

end Program

namespace CallGraph

/-- **Framework code is opaque**: two images that differ at most in the methods of framework classes
have the same call graph, its lifecycles included, and the same cross references. -/
theorem link_build_eq_of_agreeOutside {classes classes' : List ClassDef} {boundary : Boundary}
    {p q : Program} (table : Option RegistrationTable) (components : ComponentTable)
    (hp : Program.ofImage? (.ofClasses classes) boundary = some p)
    (hq : Program.ofImage? (.ofClasses classes') boundary = some q)
    (hagree : Image.AgreeOutside boundary (.ofClasses classes) (.ofClasses classes')) :
    (build p table).link p components = (build q table).link q components ∧
      ∀ g, XrefIndex.build p g = XrefIndex.build q g := by
  obtain ⟨himage, hboundary⟩ := Program.ofImage?_eq_some_iff.mp hp
  obtain ⟨himage', hboundary'⟩ := Program.ofImage?_eq_some_iff.mp hq
  have halike : p.Alike q := by
    refine Program.alike_of_agreeOutside ?_ (hboundary.trans hboundary'.symm) ?_
    · rw [himage]
      exact Image.filed_ofClasses classes
    · rw [himage, himage', hboundary]
      exact hagree
  exact ⟨by rw [halike.build_eq, halike.link_eq], halike.xref_eq⟩

/-- The class `A` of the application extends `fw.Mid`, and this extends `B` of the application,
which declares `m`. The framework class may have methods of its own. -/
def crossingClasses (methods : List Method) : List ClassDef :=
  let call : Instruction := .plain .entry 2 (.invoke ⟨"A", "m", "()V"⟩)
  [⟨"A", some "fw.Mid", [], [⟨"run", "()V", some ⟨[call], [], by decide⟩⟩], []⟩,
    ⟨"fw.Mid", some "B", [], methods, []⟩,
    ⟨"B", none, [], [.returning "m"], []⟩]

/-- The program of these classes. -/
def crossingProgram (methods : List Method) : Program :=
  .ofNonempty (.ofClasses (crossingClasses methods)) (.ofPrefixes ["fw."])
    (Image.isEmpty_addClass _ _)

/-- The method `m`, without code. -/
def crossingMethod : Method := ⟨"m", "()V", none⟩

/-- Whether or not `fw.Mid` declares `m`, the results are the same. -/
theorem link_build_eq_of_agreeOutside_crossing :
    Program.ofImage? (.ofClasses (crossingClasses [])) (.ofPrefixes ["fw."]) =
        some (crossingProgram []) ∧
      Program.ofImage? (.ofClasses (crossingClasses [crossingMethod])) (.ofPrefixes ["fw."]) =
        some (crossingProgram [crossingMethod]) ∧
      Image.AgreeOutside (.ofPrefixes ["fw."]) (.ofClasses (crossingClasses []))
        (.ofClasses (crossingClasses [crossingMethod])) ∧
      (crossingProgram []).image.getClass? "fw.Mid" ≠
        (crossingProgram [crossingMethod]).image.getClass? "fw.Mid" ∧
      (build (crossingProgram []) none).link (crossingProgram []) .empty =
        (build (crossingProgram [crossingMethod]) none).link (crossingProgram [crossingMethod])
          .empty ∧
      ∀ g, XrefIndex.build (crossingProgram []) g =
        XrefIndex.build (crossingProgram [crossingMethod]) g := by
  have hp : Program.ofImage? (.ofClasses (crossingClasses [])) (.ofPrefixes ["fw."]) =
      some (crossingProgram []) := Program.ofImage?_eq_some_iff.mpr ⟨rfl, rfl⟩
  have hq : Program.ofImage? (.ofClasses (crossingClasses [crossingMethod]))
      (.ofPrefixes ["fw."]) = some (crossingProgram [crossingMethod]) :=
    Program.ofImage?_eq_some_iff.mpr ⟨rfl, rfl⟩
  have hmid : (Boundary.ofPrefixes ["fw."]).contains "fw.Mid" = true := by decide +kernel
  have hagree : Image.AgreeOutside (.ofPrefixes ["fw."]) (.ofClasses (crossingClasses []))
      (.ofClasses (crossingClasses [crossingMethod])) :=
    Image.agreeOutside_ofClasses (.cons ⟨rfl, rfl, rfl, rfl, fun _ => rfl⟩
      (.cons ⟨rfl, rfl, rfl, rfl, fun h => absurd (hmid.symm.trans h) (by decide)⟩
        (.cons ⟨rfl, rfl, rfl, rfl, fun _ => rfl⟩ .nil)))
  exact ⟨hp, hq, hagree, by decide +kernel, link_build_eq_of_agreeOutside none .empty hp hq hagree⟩

end CallGraph

end CallAtlas
