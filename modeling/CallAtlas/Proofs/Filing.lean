import CallAtlas.Proofs.Resolution

/-!
# Images filed by name

An image to which classes are added one by one files every class under its name. Looking a name up
then finds the one class of that name, so the superclass that the hierarchy records for a name is
that of its class, and the block graphs of the methods of a class are those of its bodies.

## Main definitions

* `Image.Filed`: every class is filed under its name

## Main results

* `Image.isEmpty_iff`, `Image.isEmpty_eq_false_iff`: images without class
* `Image.filed_ofClasses`: adding classes files them by name
* `Image.Filed.findSome?_eq_bind`: searching the classes for a name looks the name up
* `Image.Filed.superclass?_ofImage`: the recorded superclass of a name
* `Program.graph?_eq_of_filed`: the block graph of a method
* `Program.ofImage?_eq_some_iff`: the program of an image
-/

namespace CallAtlas

/-- The values of a table are the second components of its entries. -/
theorem values_eq_map_toList {α β : Type} [Ord α] [Std.TransOrd α] (t : Std.ExtTreeMap α β) :
    t.values = t.toList.map Prod.snd := by
  obtain ⟨⟨t⟩⟩ := t
  induction t using Quotient.ind with
  | _ t =>
    change t.inner.values = (Std.DTreeMap.Internal.Impl.Const.toList t.inner).map Prod.snd
    rw [Std.DTreeMap.Internal.Impl.Const.toList_eq_toListModel_map,
      Std.DTreeMap.Internal.Impl.values_eq_map_snd, List.map_map]
    rfl

namespace Image

variable {image : Image} {boundary : Boundary} {c x : ClassDef} {key name : String}

theorem mem_classList : c ∈ image.classList ↔ ∃ key, image.getClass? key = some c := by
  rw [classList, values_eq_map_toList, List.mem_map]
  constructor
  · rintro ⟨⟨key, c⟩, hmem, rfl⟩
    exact ⟨key, Std.ExtTreeMap.mem_toList_iff_getElem?_eq_some.mp hmem⟩
  · rintro ⟨key, hkey⟩
    exact ⟨(key, c), Std.ExtTreeMap.mem_toList_iff_getElem?_eq_some.mpr hkey, rfl⟩

/-- Of two images whose classes are related key by key, a key is missing in both or in neither. -/
theorem getClass?_cases_of_rel {image' : Image} {r : ClassDef → ClassDef → Prop}
    (h : ∀ key, Option.Rel r (image.getClass? key) (image'.getClass? key)) (key : String) :
    (image.getClass? key = none ∧ image'.getClass? key = none) ∨
      ∃ c d, image.getClass? key = some c ∧ image'.getClass? key = some d ∧ r c d := by
  have hkey := h key
  generalize image.getClass? key = o at hkey ⊢
  generalize image'.getClass? key = o' at hkey ⊢
  cases hkey with
  | none => exact .inl ⟨rfl, rfl⟩
  | some hrel => exact .inr ⟨_, _, rfl, rfl, hrel⟩

theorem isNone_getClass?_eq_of_rel {image' : Image} {r : ClassDef → ClassDef → Prop}
    (h : ∀ key, Option.Rel r (image.getClass? key) (image'.getClass? key)) (key : String) :
    (image.getClass? key).isNone = (image'.getClass? key).isNone := by
  rcases getClass?_cases_of_rel h key with ⟨hnone, hnone'⟩ | ⟨c, d, hc, hd, -⟩
  · rw [hnone, hnone']
  · rw [hc, hd, Option.isNone_some, Option.isNone_some]

/-- Every class is filed under its name. -/
def Filed (image : Image) : Prop := ∀ key c, image.getClass? key = some c → c.name = key

theorem getClass?_addClass (image : Image) (x : ClassDef) (key : String) :
    (image.addClass x).getClass? key =
      (image.getClass? key).or (if x.name = key then some x else none) := by
  change (image.classes.insertIfNew x.name x)[key]? = _
  rw [Std.ExtTreeMap.getElem?_insertIfNew]
  change _ = image.classes[key]?.or _
  by_cases hkey : x.name = key
  · subst hkey
    cases h : image.classes[x.name]? <;> simp [h, Std.ExtTreeMap.mem_iff_isSome_getElem?]
  · simp [hkey]

theorem isEmpty_iff : image.isEmpty = true ↔ ∀ key, image.getClass? key = none := by
  rw [isEmpty, Std.ExtTreeMap.isEmpty_iff, Std.ExtTreeMap.eq_empty_iff_forall_not_mem]
  simp only [Std.ExtTreeMap.mem_iff_isSome_getElem?, Bool.not_eq_true, Option.isSome_eq_false_iff,
    Option.isNone_iff_eq_none]
  rfl

theorem isEmpty_eq_false_iff : image.isEmpty = false ↔ ∃ key c, image.getClass? key = some c := by
  rw [← Bool.not_eq_true, isEmpty_iff]
  simp only [not_forall, ← ne_eq, Option.ne_none_iff_exists']

theorem isEmpty_addClass (image : Image) (x : ClassDef) : (image.addClass x).isEmpty = false :=
  Std.ExtTreeMap.isEmpty_eq_false_iff.mpr Std.ExtTreeMap.insertIfNew_ne_empty

theorem Filed.addClass (h : image.Filed) (x : ClassDef) : (image.addClass x).Filed := by
  intro key c hc
  rw [getClass?_addClass, Option.or_eq_some_iff] at hc
  rcases hc with hc | ⟨-, hc⟩
  · exact h key c hc
  · split at hc
    · next hname =>
      obtain rfl := Option.some.inj hc
      exact hname
    · cases hc

theorem filed_ofClasses (classes : List ClassDef) : (ofClasses classes).Filed := by
  have hfold : ∀ image : Image, image.Filed → (classes.foldl Image.addClass image).Filed := by
    induction classes with
    | nil => exact fun image h => h
    | cons c classes ih => exact fun image h => ih _ (h.addClass c)
  refine hfold empty fun key c hc => ?_
  have hnone : (∅ : Std.ExtTreeMap String ClassDef)[key]? = some c := hc
  simp at hnone

theorem Filed.getClass?_name (h : image.Filed) (hc : c ∈ image.classList) :
    image.getClass? c.name = some c := by
  obtain ⟨key, hkey⟩ := mem_classList.mp hc
  rwa [h key c hkey]

/-- A search that only accepts classes of one name finds what is filed under it, in whatever order
the classes stand. -/
theorem Filed.findSome?_eq_bind {β : Type} {f : ClassDef → Option β} {classes : List ClassDef}
    (h : image.Filed) (name : String)
    (hclasses : ∀ c, c.name = name → (c ∈ classes ↔ c ∈ image.classList))
    (hf : ∀ c, c.name ≠ name → f c = none) :
    classes.findSome? f = (image.getClass? name).bind f := by
  cases hfound : classes.findSome? f with
  | some y =>
    obtain ⟨c, hc, hy⟩ := List.exists_of_findSome?_eq_some hfound
    have hname : c.name = name := by
      by_contra hne
      simp [hf c hne] at hy
    rw [← hname, h.getClass?_name ((hclasses c hname).mp hc), Option.bind_some, hy]
  | none =>
    cases hname : image.getClass? name with
    | none => rfl
    | some c =>
      have hc : c ∈ classes :=
        (hclasses c (h name c hname)).mpr (mem_classList.mpr ⟨name, hname⟩)
      exact (List.findSome?_eq_none_iff.mp hfound c hc).symm

/-- The hierarchy records for a name the superclass of its class. -/
theorem Filed.superclass?_ofImage (h : image.Filed) :
    (Hierarchy.ofImage image boundary).superclass? name =
      (image.getClass? name).bind (·.superclass) := by
  have hfind : image.classList.reverse.find? (·.name = name) = image.getClass? name := by
    rw [List.find?_eq_findSome?_guard,
      h.findSome?_eq_bind name (fun _ _ => List.mem_reverse) (by simp [Option.guard])]
    cases hname : image.getClass? name with
    | none => rfl
    | some c => simp [h name c hname]
  have hnode : (Hierarchy.ofImage image boundary).getClass? name =
      (Hierarchy.allNodes image boundary)[name]? := rfl
  rw [Hierarchy.superclass?, hnode, Hierarchy.allNodes, getElem?_foldl_insertIfNew,
    Hierarchy.definedNodes, getElem?_foldl_insert, hfind]
  cases image.getClass? name with
  | some c => rfl
  | none =>
    cases image.links.find? (·.target = name) <;> rfl

end Image

namespace Program

variable {p q : Program} {image : Image} {boundary : Boundary} {m : MethodRef}

/-- A program is determined by its image and its boundary. -/
theorem eq_of_image_eq (himage : p.image = q.image) (hboundary : p.boundary = q.boundary) :
    p = q := by
  obtain ⟨image, boundary, hnonempty, hierarchy, hhierarchy, graphs, hgraphs⟩ := p
  obtain ⟨image', boundary', hnonempty', hierarchy', hhierarchy', graphs', hgraphs'⟩ := q
  dsimp only at himage hboundary
  subst himage hboundary hhierarchy hhierarchy' hgraphs hgraphs'
  rfl

theorem ofImage?_eq_some_iff :
    ofImage? image boundary = some p ↔ p.image = image ∧ p.boundary = boundary := by
  rw [ofImage?]
  constructor
  · intro h
    split at h
    · obtain rfl := Option.some.inj h
      exact ⟨rfl, rfl⟩
    · cases h
  · rintro ⟨rfl, rfl⟩
    rw [dif_pos p.nonempty, Option.some.injEq]
    exact eq_of_image_eq rfl rfl

theorem exists_ofImage?_eq_some (h : image.isEmpty = false) (boundary : Boundary) :
    ∃ p, ofImage? image boundary = some p :=
  ⟨_, dif_pos h⟩

theorem owner_of_mem_bodies {c : ClassDef} {body : MethodRef × Code} (h : body ∈ c.bodies) :
    body.1.owner = c.name := by
  obtain ⟨d, -, hcode⟩ := List.mem_filterMap.mp h
  obtain ⟨code, -, rfl⟩ := Option.map_eq_some_iff.mp hcode
  rfl

/-- The block graph of a method is that of its last body in the class of its owner. -/
theorem graph?_eq_of_filed (h : p.image.Filed) (m : MethodRef) :
    p.graph? m =
      if p.isFramework m.owner then none
      else (p.getClass? m.owner).bind fun c =>
        (c.bodies.reverse.find? (·.1 = m)).map fun body => .ofCode body.2 := by
  have hother : ∀ c : ClassDef, c.name ≠ m.owner → c.bodies.reverse.find? (·.1 = m) = none := by
    intro c hne
    refine List.find?_eq_none.mpr fun body hbody => ?_
    have howner := owner_of_mem_bodies (List.mem_reverse.mp hbody)
    simp only [decide_eq_true_eq]
    rintro rfl
    exact hne howner.symm
  have hbodies : (p.image.bodies p.boundary).reverse.find? (·.1 = m) =
      (p.image.applicationClasses p.boundary).reverse.findSome? fun c =>
        c.bodies.reverse.find? (·.1 = m) := by
    rw [Image.bodies, List.reverse_flatMap, List.find?_flatMap]
    rfl
  rw [graph?_eq_map_find?, hbodies]
  cases hframework : p.isFramework m.owner with
  | true =>
    rw [List.findSome?_eq_none_iff.mpr]
    · rfl
    · intro c hc
      have happlication := (List.mem_filter.mp (List.mem_reverse.mp hc)).2
      refine hother c fun hname => ?_
      rw [isFramework, ← hname] at hframework
      simp [hframework] at happlication
  | false =>
    rw [isFramework] at hframework
    rw [h.findSome?_eq_bind m.owner _ hother, Option.map_bind]
    · rfl
    · intro c hname
      simp [Image.applicationClasses, hname, hframework]

end Program

end CallAtlas
