import CallAtlas.Proofs.Dispatch
import CallAtlas.Proofs.SuperclassChain

/-!
# Methods are inherited

What a call resolves to does not depend on where the climb starts, as long as the classes in between
say nothing about it: a class that neither belongs to the framework nor declares the method resolves
a call as its superclass does. The chains of the two classes differ when they lie on a common cycle.
So the outcome is related to a climb that is not bounded and does not look back, of which both
chains are a part.

## Main definitions

* `Program.Meets`: the first answer on a climb that goes round cycles again and again

## Main results

* `Program.findSome?_superclassChain_eq_some_iff`: a chain holds the first answer, if there is one
* `Program.meets_iff_of_extends`: the first answer is inherited
* `Program.inheritance_equations`: what a call resolves to is resolved to itself, and is inherited
-/

namespace CallAtlas.Program

variable {p : Program} {callee : MethodRef} {r r' : Resolution} {s x : String} {l : List String}

/-- Climbing from a class by recorded superclasses, the first class that says anything about a call
says `r`. -/
inductive Meets (p : Program) (callee : MethodRef) : String → Resolution → Prop
  | here {x : String} {r : Resolution} : p.resolveOn callee x = some r → Meets p callee x r
  | above {x s : String} {r : Resolution} :
      p.resolveOn callee x = none → p.hierarchy.Extends x s → Meets p callee s r →
        Meets p callee x r

/-- A class says something itself, or leaves it to its recorded superclass. -/
theorem meets_iff_of_extends (hnone : p.resolveOn callee x = none)
    (hs : p.hierarchy.Extends x s) : p.Meets callee x r ↔ p.Meets callee s r := by
  constructor
  · intro hmeets
    cases hmeets with
    | here hfound => simp [hnone] at hfound
    | above _ ht hmeets =>
      obtain rfl := Option.some.inj (ht.symm.trans hs)
      exact hmeets
  · exact .above hnone hs

/-- There is one first answer at most. -/
theorem Meets.unique (hmeets : p.Meets callee x r) (hmeets' : p.Meets callee x r') : r = r' := by
  induction hmeets with
  | here hfound =>
    cases hmeets' with
    | here hfound' => exact Option.some.inj (hfound.symm.trans hfound')
    | above hnone _ _ => simp [hfound] at hnone
  | above hnone hs _ ih => exact ih ((meets_iff_of_extends hnone hs).mp hmeets')

/-- The first answer is given by a class that can be reached by superclass links. -/
theorem Meets.exists_resolveOn (hmeets : p.Meets callee x r) :
    ∃ y, Relation.ReflTransGen p.hierarchy.Extends x y ∧ p.resolveOn callee y = some r := by
  induction hmeets with
  | here hfound => exact ⟨_, .refl, hfound⟩
  | above _ hs _ ih =>
    obtain ⟨y, hpath, hfound⟩ := ih
    exact ⟨y, .head hs hpath, hfound⟩

/-- The first answer of a list of superclasses is the first one of the climb. -/
theorem meets_of_findSome?_eq_some (hchain : (x :: l).IsChain p.hierarchy.Extends)
    (hfind : (x :: l).findSome? (p.resolveOn callee) = some r) : p.Meets callee x r := by
  induction l generalizing x with
  | nil =>
    rw [List.findSome?_singleton] at hfind
    exact .here hfind
  | cons s l ih =>
    obtain ⟨hs, hrest⟩ := List.isChain_cons_cons.mp hchain
    rw [List.findSome?_cons] at hfind
    cases hx : p.resolveOn callee x with
    | none =>
      rw [hx] at hfind
      exact .above hx hs (ih hrest hfind)
    | some r' =>
      rw [hx] at hfind
      exact .here (hx.trans hfind)

/-- **A chain holds the first answer**, if there is one: it leaves out only classes that the climb
has met before. -/
theorem findSome?_superclassChain_eq_some_iff :
    (p.hierarchy.superclassChain x).findSome? (p.resolveOn callee) = some r ↔
      p.Meets callee x r := by
  have hmeets : ∀ r, (p.hierarchy.superclassChain x).findSome? (p.resolveOn callee) = some r →
      p.Meets callee x r := by
    intro r hfind
    obtain ⟨l, hl⟩ := List.head?_eq_some_iff.mp (p.hierarchy.head?_superclassChain x)
    have hchain := (p.hierarchy.climbs_superclassChain x).isChain
    rw [hl] at hchain hfind
    exact meets_of_findSome?_eq_some hchain hfind
  constructor
  · exact hmeets r
  · intro hr
    cases hfind : (p.hierarchy.superclassChain x).findSome? (p.resolveOn callee) with
    | some r' => rw [(hmeets r' hfind).unique hr]
    | none =>
      obtain ⟨y, hpath, hy⟩ := hr.exists_resolveOn
      have hnone := List.findSome?_eq_none_iff.mp hfind y (Hierarchy.mem_superclassChain.mpr hpath)
      simp [hy] at hnone

/-- What a class itself says about a call is what the call to that class resolves to. -/
theorem resolve_withOwner_of_resolveOn (hx : p.resolveOn callee x = some r) :
    p.resolve (callee.withOwner x) = r := by
  rw [resolve, MethodRef.withOwner_owner, resolveOn_withOwner,
    findSome?_superclassChain_eq_some_iff.mpr (.here hx), Option.getD_some]

theorem exists_resolveOn_of_resolve (hr : r ≠ .unresolved) (hresolve : p.resolve callee = r) :
    ∃ y, p.resolveOn callee y = some r := by
  obtain ⟨y, -, hy⟩ := List.exists_of_findSome?_eq_some ((resolve_eq_iff hr).mp hresolve)
  exact ⟨y, hy⟩

/-- **Methods are inherited**: what a call resolves to resolves to itself, and a class that neither
belongs to the framework nor declares the method resolves a call as its recorded superclass does,
also where the two lie on a cycle. -/
theorem inheritance_equations (p : Program) (callee : MethodRef) :
    (∀ t, p.resolve callee = .method t → p.resolve t = .method t) ∧
      (∀ t, p.resolve callee = .framework t → p.resolve t = .framework t) ∧
      ∀ s, p.isFramework callee.owner = false → ¬ p.Declares callee.owner callee →
        p.hierarchy.superclass? callee.owner = some s →
        p.resolve callee = p.resolve (callee.withOwner s) := by
  refine ⟨fun t ht => ?_, fun t ht => ?_, fun s hframework hdeclares hs => ?_⟩
  · obtain ⟨y, hy⟩ := exists_resolveOn_of_resolve (by simp) ht
    obtain ⟨-, -, rfl⟩ := resolveOn_eq_method_iff.mp hy
    exact resolve_withOwner_of_resolveOn hy
  · obtain ⟨y, hy⟩ := exists_resolveOn_of_resolve (by simp) ht
    obtain ⟨-, rfl⟩ := resolveOn_eq_framework_iff.mp hy
    exact resolve_withOwner_of_resolveOn hy
  · have hnone : p.resolveOn callee callee.owner = none :=
      resolveOn_eq_none_iff.mpr ⟨hframework, hdeclares⟩
    rw [resolve, resolve, MethodRef.withOwner_owner, resolveOn_withOwner]
    congr 1
    apply Option.ext
    intro r
    rw [findSome?_superclassChain_eq_some_iff, findSome?_superclassChain_eq_some_iff]
    exact meets_iff_of_extends hnone hs

/-- The class `B` inherits `m` from `A`, although its chain is not that of `A` with `B` in front: the
two lie on one cycle. -/
theorem inheritance_equations_cyclic :
    CallGraph.cyclicProgram.hierarchy.superclassChain "B" = ["B", "A", "D", "C"] ∧
      CallGraph.cyclicProgram.hierarchy.superclassChain "A" = ["A", "D", "C", "B"] ∧
      CallGraph.cyclicProgram.isFramework "B" = false ∧
      ¬ CallGraph.cyclicProgram.Declares "B" ⟨"B", "m", "()V"⟩ ∧
      CallGraph.cyclicProgram.hierarchy.superclass? "B" = some "A" ∧
      CallGraph.cyclicProgram.resolve ⟨"B", "m", "()V"⟩ =
        CallGraph.cyclicProgram.resolve ⟨"A", "m", "()V"⟩ := by
  have hframework : CallGraph.cyclicProgram.isFramework "B" = false := by decide +kernel
  have hdeclares : ¬ CallGraph.cyclicProgram.Declares "B" ⟨"B", "m", "()V"⟩ := by
    rw [← findMethod?_isSome_iff]
    decide +kernel
  have hs : CallGraph.cyclicProgram.hierarchy.superclass? "B" = some "A" := by decide +kernel
  exact ⟨by decide +kernel, by decide +kernel, hframework, hdeclares, hs,
    (inheritance_equations CallGraph.cyclicProgram ⟨"B", "m", "()V"⟩).2.2 "A" hframework hdeclares hs⟩

end CallAtlas.Program
