import CallAtlas.Options
import CallAtlas.Proofs.Subclassing

/-!
# Which components a class is linked as

Components are declared by the options or recognized in the program. A declaration replaces an
earlier one and whatever was recognized. A class of the application is recognized by the base class
that it descends from, along links of either sort and on cycles too; where it descends from several
of them, the order of the kinds decides.

## Main definitions

* `Options.DeclaresLast`: the last declaration of a class
* `Program.Recognizes`: the kind that a class of the application is recognized as

## Main results

* `ComponentTable.get?_insertMany`: later components replace earlier ones
* `Program.componentKind?_eq_some_iff`: the first kind whose base class lies above a class
* `ComponentTable.get?_infer_eq_some_iff`: the components recognized in a program
* `Options.kind_components`: declared kinds come before recognized ones
-/

namespace CallAtlas

/-! ## Tables of components -/

namespace ComponentTable

theorem kinds_insertMany (t : ComponentTable) (cs : List Component) :
    (t.insertMany cs).kinds = cs.foldl (fun kinds c => kinds.insert c.className c.kind) t.kinds := by
  induction cs generalizing t with
  | nil => rfl
  | cons c cs ih => exact ih (t.insert c)

/-- Later components replace earlier ones, and those that the table had before. -/
theorem get?_insertMany (t : ComponentTable) (cs : List Component) (className : String) :
    (t.insertMany cs).get? className =
      ((cs.reverse.find? (·.className = className)).map (·.kind)).or (t.get? className) := by
  rw [get?, kinds_insertMany, getElem?_foldl_insert, get?]

theorem get?_empty (className : String) : empty.get? className = none :=
  Std.ExtTreeMap.getElem?_empty

end ComponentTable

/-- The last component of a class in a list. -/
theorem Component.find?_reverse_eq_some_iff {cs : List Component} {className : String}
    {c : Component} :
    cs.reverse.find? (·.className = className) = some c ↔
      c.className = className ∧ ∃ before after, cs = before ++ c :: after ∧
        ∀ d ∈ after, d.className ≠ className := by
  rw [CallAtlas.find?_reverse_eq_some_iff]
  simp only [decide_eq_true_eq, decide_eq_false_iff_not, ne_eq]

/-! ## Recognized components -/

namespace Program

variable {p : Program} {className : String} {kind kind' : ComponentKind} {c : Component}

/-- A class is recognized as a component of a kind: it is defined and belongs to the application,
and the kind is the first one whose base class links lead up to. -/
structure Recognizes (p : Program) (className : String) (kind : ComponentKind) : Prop where
  defined : ∃ cls ∈ p.image.classList, cls.name = className
  application : p.isFramework className = false
  descends : Relation.TransGen p.image.Link className kind.baseClass
  first : ∃ before after, ComponentKind.all = before ++ kind :: after ∧
    ∀ k ∈ before, ¬ Relation.TransGen p.image.Link className k.baseClass

theorem isSubclassOf_iff {ancestor : String} :
    p.hierarchy.isSubclassOf className ancestor = true ↔
      Relation.TransGen p.image.Link className ancestor := by
  rw [p.hierarchy_eq]
  exact Hierarchy.isSubclassOf_ofImage

/-- The kind of a class is the first one whose base class lies above it. -/
theorem componentKind?_eq_some_iff :
    p.componentKind? className = some kind ↔
      Relation.TransGen p.image.Link className kind.baseClass ∧
        ∃ before after, ComponentKind.all = before ++ kind :: after ∧
          ∀ k ∈ before, ¬ Relation.TransGen p.image.Link className k.baseClass := by
  rw [componentKind?, List.find?_eq_some_iff_append]
  simp only [Bool.not_eq_true', ← Bool.not_eq_true, isSubclassOf_iff]

theorem recognizes_iff :
    p.Recognizes className kind ↔
      (∃ cls ∈ p.image.classList, cls.name = className) ∧ p.isFramework className = false ∧
        p.componentKind? className = some kind := by
  rw [componentKind?_eq_some_iff]
  constructor
  · intro h
    exact ⟨h.defined, h.application, h.descends, h.first⟩
  · rintro ⟨hdefined, happlication, hdescends, hfirst⟩
    exact ⟨hdefined, happlication, hdescends, hfirst⟩

/-- A class is recognized as a component of one kind at most. -/
theorem Recognizes.unique (h : p.Recognizes className kind) (h' : p.Recognizes className kind') :
    kind = kind' := by
  obtain ⟨-, -, hkind⟩ := recognizes_iff.mp h
  obtain ⟨-, -, hkind'⟩ := recognizes_iff.mp h'
  exact Option.some.inj (hkind.symm.trans hkind')

theorem mem_inferredComponents : c ∈ p.inferredComponents ↔ p.Recognizes c.className c.kind := by
  rw [inferredComponents, List.mem_filterMap, recognizes_iff]
  constructor
  · rintro ⟨cls, hcls, h⟩
    obtain ⟨kind, hkind, rfl⟩ := Option.map_eq_some_iff.mp h
    obtain ⟨hmem, happlication⟩ := List.mem_filter.mp hcls
    exact ⟨⟨cls, hmem, rfl⟩, by simpa [isFramework] using happlication, hkind⟩
  · rintro ⟨⟨cls, hmem, hname⟩, happlication, hkind⟩
    refine ⟨cls, List.mem_filter.mpr ⟨hmem, ?_⟩, ?_⟩
    · rw [hname, Bool.not_eq_true']
      exact happlication
    · rw [hname, hkind]
      rfl

end Program

/-- The table of the recognized components. A name may be defined more than once, but always gets
the same kind. -/
theorem ComponentTable.get?_infer_eq_some_iff {p : Program} {className : String}
    {kind : ComponentKind} : (infer p).get? className = some kind ↔ p.Recognizes className kind := by
  rw [infer, ofList, get?_insertMany, get?_empty, Option.or_none, Option.map_eq_some_iff]
  have hfound : ∀ c, p.inferredComponents.reverse.find? (·.className = className) = some c →
      p.Recognizes className c.kind := by
    intro c hfind
    have hname : c.className = className := by simpa using List.find?_some hfind
    rw [← hname]
    exact Program.mem_inferredComponents.mp (List.mem_reverse.mp (List.mem_of_find?_eq_some hfind))
  constructor
  · rintro ⟨c, hfind, rfl⟩
    exact hfound c hfind
  · intro h
    have hmem : ⟨className, kind⟩ ∈ p.inferredComponents := Program.mem_inferredComponents.mpr h
    cases hfind : p.inferredComponents.reverse.find? (·.className = className) with
    | none =>
      have hnone := List.find?_eq_none.mp hfind _ (List.mem_reverse.mpr hmem)
      simp at hnone
    | some c => exact ⟨c, rfl, (hfound c hfind).unique h⟩

/-! ## Declared and recognized components -/

namespace Options

variable {o : Options} {p : Program} {className : String} {kind : ComponentKind}

/-- The last declaration of a class declares it as a component of a kind. -/
def DeclaresLast (o : Options) (className : String) (kind : ComponentKind) : Prop :=
  ∃ before after, o.declaredComponents = before ++ ⟨className, kind⟩ :: after ∧
    ∀ c ∈ after, c.className ≠ className

theorem find?_declared_eq_some_iff :
    (o.declaredComponents.reverse.find? (·.className = className)).map (·.kind) = some kind ↔
      o.DeclaresLast className kind := by
  rw [Option.map_eq_some_iff]
  simp only [Component.find?_reverse_eq_some_iff]
  constructor
  · rintro ⟨c, ⟨rfl, hsplit⟩, rfl⟩
    exact hsplit
  · intro h
    exact ⟨⟨className, kind⟩, ⟨rfl, h⟩, rfl⟩

theorem find?_declared_eq_none_iff :
    (o.declaredComponents.reverse.find? (·.className = className)).map (·.kind) = none ↔
      ∀ c ∈ o.declaredComponents, c.className ≠ className := by
  simp [Option.map_eq_none_iff, List.find?_eq_none]

/-- The table that the declarations are added to. -/
theorem get?_recognized_eq_some_iff :
    (if o.skipInference then ComponentTable.empty else ComponentTable.infer p).get? className =
        some kind ↔ o.skipInference = false ∧ p.Recognizes className kind := by
  cases o.skipInference with
  | true => simp [ComponentTable.get?_empty]
  | false => simp [ComponentTable.get?_infer_eq_some_iff]

/-- **Declared kinds come before recognized ones.** A class is linked as the kind of its last
declaration. If it has none it is linked as the kind that it is recognized as, unless nothing is to
be recognized. Otherwise it is not linked. -/
theorem kind_components (o : Options) (p : Program) (className : String) :
    (∀ kind, (o.components p).get? className = some kind ↔
      o.DeclaresLast className kind ∨
        ((∀ c ∈ o.declaredComponents, c.className ≠ className) ∧ o.skipInference = false ∧
          p.Recognizes className kind)) ∧
      ((o.components p).get? className = none ↔
        (∀ c ∈ o.declaredComponents, c.className ≠ className) ∧
          (o.skipInference = true ∨ ∀ kind, ¬ p.Recognizes className kind)) := by
  refine ⟨fun kind => ?_, ?_⟩
  · rw [components, ComponentTable.get?_insertMany, Option.or_eq_some_iff,
      find?_declared_eq_some_iff, find?_declared_eq_none_iff, get?_recognized_eq_some_iff]
  · rw [components, ComponentTable.get?_insertMany, Option.or_eq_none_iff,
      find?_declared_eq_none_iff]
    refine and_congr_right fun _ => ?_
    simp only [Option.eq_none_iff_forall_ne_some, ne_eq, get?_recognized_eq_some_iff, not_and]
    cases o.skipInference <;> simp

end Options

end CallAtlas
