import CallAtlas.Proofs.Hierarchy
import Mathlib.Data.List.Chain

/-!
# Climbing the superclasses comes to an end

A climb takes one class after another, each the recorded superclass of the one before, and stops at
a class without recorded superclass or before a class that it took already. A hierarchy has finitely
many classes, so every climb comes to an end, whether or not it enters a cycle, and it has then
taken every class that can be reached by superclass links.

## Main definitions

* `Hierarchy.Climbs`: the course of a climb, without bound on its length

## Main results

* `Hierarchy.climbs_climb`: a climb with a step for each class that is left comes to an end
* `Hierarchy.Climbs.nodup`, `Hierarchy.Climbs.isChain`, `Hierarchy.Climbs.closed`: what a climb takes
* `Hierarchy.climbs_nil_iff`: the chain of a class is the course of the climb from it
* `Hierarchy.mem_superclassChain`: the chain of a class holds what can be reached by superclass links
* `Hierarchy.superclassChain_ends`: the chain of a class
-/

namespace CallAtlas.Hierarchy

variable {h : Hierarchy} {fuel : Nat} {seen chain : List String} {c d name s : String}

/-- The course of a climb from a class, where `seen` were taken before: it takes the classes of a
list, one by one, and stops. -/
inductive Climbs (h : Hierarchy) : List String → String → List String → Prop
  /-- A class is not taken twice. -/
  | again {seen : List String} {name : String} : name ∈ seen → Climbs h seen name []
  /-- A class without recorded superclass is the last one. -/
  | top {seen : List String} {name : String} :
      name ∉ seen → h.superclass? name = none → Climbs h seen name [name]
  /-- The climb goes on to the recorded superclass. -/
  | up {seen chain : List String} {name s : String} :
      name ∉ seen → h.Extends name s → Climbs h (name :: seen) s chain →
        Climbs h seen name (name :: chain)

/-! ## Every climb comes to an end -/

/-- Only indexed classes have a recorded superclass. -/
theorem mem_nodes_of_extends (hs : h.Extends name s) : name ∈ h.nodes := by
  obtain ⟨node, hnode, -⟩ := Option.bind_eq_some_iff.mp hs
  rw [Std.ExtTreeMap.mem_iff_isSome_getElem?]
  exact Option.isSome_iff_exists.mpr ⟨node, hnode⟩

/-- **A climb comes to an end**, if it is allowed a step for each class that it has not seen and one
more. -/
theorem climbs_climb (hnodup : seen.Nodup) (hseen : ∀ x ∈ seen, x ∈ h.nodes)
    (hfuel : h.nodes.size < fuel + seen.length) : h.Climbs seen name (h.climb fuel seen name) := by
  induction fuel generalizing seen name with
  | zero =>
    have := length_le_size_nodes hnodup hseen
    omega
  | succ fuel ih =>
    rw [climb_succ]
    by_cases hname : name ∈ seen
    · rw [if_pos hname]
      exact .again hname
    · rw [if_neg hname]
      cases hs : h.superclass? name with
      | none => exact .top hname hs
      | some s =>
        -- a class with a superclass is indexed, so it counts among those seen from here on
        refine .up hname hs (ih (List.nodup_cons.mpr ⟨hname, hnodup⟩) ?_ ?_)
        · exact List.forall_mem_cons.mpr ⟨mem_nodes_of_extends hs, hseen⟩
        · rw [List.length_cons]
          omega

theorem climbs_superclassChain (h : Hierarchy) (name : String) :
    h.Climbs [] name (h.superclassChain name) :=
  climbs_climb List.nodup_nil (by simp) (by simp)

/-- A climb is no longer than the number of indexed classes that it has not seen, and one more for a
class that is not indexed. -/
theorem Climbs.length_le (hclimbs : h.Climbs seen name chain) (hnodup : seen.Nodup)
    (hseen : ∀ x ∈ seen, x ∈ h.nodes) : chain.length + seen.length ≤ h.nodes.size + 1 := by
  induction hclimbs with
  | again _ =>
    have := length_le_size_nodes hnodup hseen
    rw [List.length_nil]
    omega
  | top _ _ =>
    have := length_le_size_nodes hnodup hseen
    rw [List.length_singleton]
    omega
  | up hname hs _ ih =>
    have hlength := ih (List.nodup_cons.mpr ⟨hname, hnodup⟩)
      (List.forall_mem_cons.mpr ⟨mem_nodes_of_extends hs, hseen⟩)
    rw [List.length_cons] at hlength ⊢
    omega

/-! ## What a climb takes -/

theorem Climbs.not_mem_seen (hclimbs : h.Climbs seen name chain) (hc : c ∈ chain) : c ∉ seen := by
  induction hclimbs with
  | again _ => cases hc
  | top hname _ =>
    rw [List.mem_singleton.mp hc]
    exact hname
  | up hname _ _ ih =>
    rcases List.mem_cons.mp hc with rfl | hc
    · exact hname
    · intro hmem
      exact ih hc (List.mem_cons_of_mem _ hmem)

/-- A climb takes no class twice. -/
theorem Climbs.nodup (hclimbs : h.Climbs seen name chain) : chain.Nodup := by
  induction hclimbs with
  | again _ => exact List.nodup_nil
  | top _ _ => exact List.nodup_singleton _
  | up _ _ hrest ih =>
    refine List.nodup_cons.mpr ⟨fun hmem => ?_, ih⟩
    exact hrest.not_mem_seen hmem List.mem_cons_self

/-- A climb takes the class it starts from first, unless that one was taken before. -/
theorem Climbs.head? (hclimbs : h.Climbs seen name chain) :
    chain.head? = if name ∈ seen then none else some name := by
  cases hclimbs with
  | again hname => rw [if_pos hname, List.head?_nil]
  | top hname _ => rw [if_neg hname, List.head?_cons]
  | up hname _ _ => rw [if_neg hname, List.head?_cons]

theorem Climbs.mem_or_mem (hclimbs : h.Climbs seen name chain) : name ∈ seen ∨ name ∈ chain := by
  cases hclimbs with
  | again hname => exact .inl hname
  | top _ _ => exact .inr List.mem_cons_self
  | up _ _ _ => exact .inr List.mem_cons_self

/-- Each class that a climb takes is the recorded superclass of the one before. -/
theorem Climbs.isChain (hclimbs : h.Climbs seen name chain) : chain.IsChain h.Extends := by
  induction hclimbs with
  | again _ => exact List.isChain_nil
  | top _ _ => exact List.isChain_singleton _
  | @up seen chain name s _ hs hrest ih =>
    refine List.isChain_cons.mpr ⟨fun x hx => ?_, ih⟩
    have hhead : (if s ∈ name :: seen then none else some s) = some x := hrest.head?.symm.trans hx
    obtain ⟨-, hx⟩ := Option.ite_none_left_eq_some.mp hhead
    obtain rfl := Option.some.inj hx
    exact hs

/-- **A climb leaves nothing out**: the recorded superclass of a class that it takes is taken too,
if it was not taken before. -/
theorem Climbs.closed (hclimbs : h.Climbs seen name chain) (hd : d ∈ chain) (hs : h.Extends d s) :
    s ∈ seen ∨ s ∈ chain := by
  induction hclimbs with
  | again _ => cases hd
  | top _ hnone =>
    rw [List.mem_singleton.mp hd, Extends, hnone] at hs
    cases hs
  | @up seen chain name t _ ht hrest ih =>
    have hnext : s ∈ name :: seen ∨ s ∈ chain := by
      rcases List.mem_cons.mp hd with rfl | hd
      · obtain rfl : t = s := Option.some.inj (ht.symm.trans hs)
        exact hrest.mem_or_mem
      · exact ih hd
    rcases hnext with hseen | hchain
    · rcases List.mem_cons.mp hseen with rfl | hseen
      · exact .inr List.mem_cons_self
      · exact .inl hseen
    · exact .inr (List.mem_cons_of_mem _ hchain)

/-- A climb has one course. -/
theorem Climbs.unique {chain' : List String} (hclimbs : h.Climbs seen name chain)
    (hclimbs' : h.Climbs seen name chain') : chain = chain' := by
  induction hclimbs generalizing chain' with
  | again hname =>
    cases hclimbs' with
    | again _ => rfl
    | top hname' _ => exact absurd hname hname'
    | up hname' _ _ => exact absurd hname hname'
  | top hname hnone =>
    cases hclimbs' with
    | again hname' => exact absurd hname' hname
    | top _ _ => rfl
    | up _ hs _ => exact absurd (hnone.symm.trans hs) (by simp)
  | up hname hs _ ih =>
    cases hclimbs' with
    | again hname' => exact absurd hname' hname
    | top _ hnone => exact absurd (hnone.symm.trans hs) (by simp)
    | up _ hs' hrest =>
      obtain rfl := Option.some.inj (hs.symm.trans hs')
      rw [ih hrest]

/-! ## The chain of a class -/

/-- The chain of a class is the course of the climb from it. -/
theorem climbs_nil_iff : h.Climbs [] name chain ↔ h.superclassChain name = chain := by
  constructor
  · exact (h.climbs_superclassChain name).unique
  · rintro rfl
    exact h.climbs_superclassChain name

theorem head?_superclassChain (h : Hierarchy) (name : String) :
    (h.superclassChain name).head? = some name :=
  (h.climbs_superclassChain name).head?

theorem self_mem_superclassChain (h : Hierarchy) (name : String) : name ∈ h.superclassChain name :=
  List.mem_of_head? (h.head?_superclassChain name)

/-- **The chain of a class** holds the classes that can be reached from it by superclass links. -/
theorem mem_superclassChain :
    c ∈ h.superclassChain name ↔ Relation.ReflTransGen h.Extends name c := by
  constructor
  · exact reflTransGen_of_mem_superclassChain
  · intro hpath
    induction hpath with
    | refl => exact h.self_mem_superclassChain name
    | tail _ hs ih =>
      exact ((h.climbs_superclassChain name).closed ih hs).resolve_left List.not_mem_nil

/-- **The chain of a class comes to an end**, in any hierarchy: a climb without bound stops with it.
It starts with the class and repeats none; each later class is the recorded superclass of the one
before; the last one has no recorded superclass, or one that is in the chain already. So the chain
holds exactly what can be reached by superclass links, and it is at most one class longer than there
are indexed classes. -/
theorem superclassChain_ends (h : Hierarchy) (name : String) :
    h.Climbs [] name (h.superclassChain name) ∧
      (h.superclassChain name).head? = some name ∧
      (h.superclassChain name).Nodup ∧
      (h.superclassChain name).IsChain h.Extends ∧
      (∃ last, (h.superclassChain name).getLast? = some last ∧
        (h.superclass? last = none ∨ ∃ s ∈ h.superclassChain name, h.superclass? last = some s)) ∧
      (∀ c, c ∈ h.superclassChain name ↔ Relation.ReflTransGen h.Extends name c) ∧
      (h.superclassChain name).length ≤ h.nodes.size + 1 := by
  have hclimbs := h.climbs_superclassChain name
  have hne : h.superclassChain name ≠ [] :=
    List.ne_nil_of_mem (h.self_mem_superclassChain name)
  refine ⟨hclimbs, h.head?_superclassChain name, hclimbs.nodup, hclimbs.isChain,
    ⟨_, List.getLast?_eq_some_getLast hne, ?_⟩, fun c => mem_superclassChain,
    hclimbs.length_le List.nodup_nil (by simp)⟩
  cases hs : h.superclass? ((h.superclassChain name).getLast hne) with
  | none => exact .inl rfl
  | some s =>
    have hmem := (hclimbs.closed (List.getLast_mem hne) hs).resolve_left List.not_mem_nil
    exact .inr ⟨s, hmem, rfl⟩

end CallAtlas.Hierarchy
