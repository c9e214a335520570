import CallAtlas.Proofs.Filing
import CallAtlas.Proofs.RoundTrip

/-!
# The method index and the class table

A method can be looked up in two ways. The class table finds the first declaration of its name and
descriptor in the class filed under its owner. The index of block graphs goes by the names of the
classes, and of several bodies of one method holds the last. The two agree on a method exactly if
the first way and the second lead to the same code. They do so throughout if every class is filed
under its name and declares no method twice. Nothing else ensures it: a class may declare a method
without code before it declares it with code, and a class that was read under another key is indexed
under its name.

## Main definitions

* `Program.tableCode?`: the code that the class table has for a method
* `Program.listedCodes`: the codes of all declarations of a method
* `Program.IndexAgrees`: the index and the class table agree on a method

## Main results

* `Program.graph?_eq_map_getLast?`: the index holds the last of the listed codes
* `Program.indexAgrees_iff`: where the two agree
* `Program.indexAgrees_of_filed`: they agree in orderly images
* `Program.index_agrees_exactly`: the two together
-/

namespace CallAtlas

/-! ## Declarations in a class -/

/-- Of elements that exclude each other, a filter keeps at most the first one. -/
theorem filter_eq_toList_find? {α : Type} {q : α → Bool} {xs : List α}
    (h : xs.Pairwise fun x y => ¬ (q x = true ∧ q y = true)) :
    xs.filter q = (xs.find? q).toList := by
  induction xs with
  | nil => rfl
  | cons x xs ih =>
    obtain ⟨hx, hxs⟩ := List.pairwise_cons.mp h
    rw [List.filter_cons, List.find?_cons]
    cases hq : q x with
    | false => exact ih hxs
    | true =>
      have hrest : xs.filter q = [] := by
        refine List.filter_eq_nil_iff.mpr ?_
        intro y hy hqy
        exact hx y hy ⟨hq, hqy⟩
      rw [if_pos rfl, hrest]
      rfl

/-- Leaving out elements that contribute nothing changes nothing. -/
theorem flatMap_filter_of_eq_nil {α β : Type} {q : α → Bool} {f : α → List β} {xs : List α}
    (h : ∀ x ∈ xs, q x = false → f x = []) : (xs.filter q).flatMap f = xs.flatMap f := by
  induction xs with
  | nil => rfl
  | cons x xs ih =>
    have hrest := ih fun y hy => h y (List.mem_cons_of_mem x hy)
    rw [List.filter_cons, List.flatMap_cons, ← hrest]
    cases hq : q x with
    | true => rfl
    | false =>
      rw [h x List.mem_cons_self hq]
      rfl

namespace ClassDef

variable {c : ClassDef} {m : MethodRef}

/-- The codes of the declarations of a method in a class, in order. -/
def codesOf (c : ClassDef) (m : MethodRef) : List Code :=
  (c.methods.filter (c.methodRef · = m)).filterMap (·.code)

theorem map_snd_filter_bodies (c : ClassDef) (m : MethodRef) :
    (c.bodies.filter (·.1 = m)).map Prod.snd = c.codesOf m := by
  rw [bodies, codesOf, List.filter_filterMap, List.map_filterMap, List.filterMap_filter]
  refine List.filterMap_congr ?_
  intro d _
  cases d.code with
  | none => simp
  | some code => by_cases hm : c.methodRef d = m <;> simp [hm, Option.filter]

/-- A class has no code for the methods of another. -/
theorem codesOf_eq_nil (h : c.name ≠ m.owner) : c.codesOf m = [] := by
  have hnone : c.methods.filter (c.methodRef · = m) = [] := by
    refine List.filter_eq_nil_iff.mpr ?_
    intro d _ hd
    obtain rfl := of_decide_eq_true hd
    exact h rfl
  rw [codesOf, hnone, List.filterMap_nil]

/-- A class that declares no method twice has the code of the declaration that is found first. -/
theorem codesOf_eq_of_nodup (hname : c.name = m.owner) (h : (c.methods.map c.methodRef).Nodup) :
    c.codesOf m = ((c.findMethod? m.name m.descriptor).bind (·.code)).toList := by
  have href : ∀ d : Method,
      c.methodRef d = m ↔ d.name = m.name ∧ d.descriptor = m.descriptor := by
    intro d
    rw [methodRef, MethodRef.mk.injEq, and_iff_right hname]
  have hexclude : c.methods.Pairwise fun d d' =>
      ¬ (decide (c.methodRef d = m) = true ∧ decide (c.methodRef d' = m) = true) := by
    refine (List.pairwise_map.mp h).imp ?_
    rintro d d' hne ⟨hd, hd'⟩
    exact hne ((of_decide_eq_true hd).trans (of_decide_eq_true hd').symm)
  have hfind : c.methods.find? (c.methodRef · = m) = c.findMethod? m.name m.descriptor := by
    rw [findMethod?]
    simp only [href]
  rw [codesOf, filter_eq_toList_find? hexclude, hfind]
  cases hd : c.findMethod? m.name m.descriptor with
  | none => rfl
  | some d => cases hcode : d.code <;> simp [hcode]

end ClassDef

namespace Program

variable {p : Program} {m : MethodRef}

/-! ## The two ways to look a method up -/

/-- The code that the class table has for a method: that of its first declaration in the class filed
under its owner. -/
def tableCode? (p : Program) (m : MethodRef) : Option Code := (p.findMethod? m).bind (·.code)

/-- The codes of all declarations of a method in the classes that its owner is the name of, in the
order of their keys. -/
def listedCodes (p : Program) (m : MethodRef) : List Code :=
  p.image.classList.flatMap (·.codesOf m)

/-- The index and the class table agree on a method: it has a block graph exactly if its owner is
no framework class and it is found to be declared with code, and the graph is that of this code. -/
def IndexAgrees (p : Program) (m : MethodRef) : Prop :=
  ∀ g, p.graph? m = some g ↔ p.isFramework m.owner = false ∧
    ∃ d code, p.findMethod? m = some d ∧ d.code = some code ∧ g = .ofCode code

/-- The index holds the last of the listed codes. -/
theorem graph?_eq_map_getLast? (p : Program) (m : MethodRef) :
    p.graph? m =
      if p.isFramework m.owner then none
      else (p.listedCodes m).getLast?.map BlockGraph.ofCode := by
  have hcodes : ((p.image.bodies p.boundary).filter (·.1 = m)).map Prod.snd =
      (p.image.applicationClasses p.boundary).flatMap (·.codesOf m) := by
    rw [Image.bodies, List.filter_flatMap, List.map_flatMap]
    exact List.flatMap_congr fun c _ => c.map_snd_filter_bodies m
  have hgraph : p.graph? m =
      ((p.image.applicationClasses p.boundary).flatMap (·.codesOf m)).getLast?.map
        BlockGraph.ofCode := by
    rw [graph?_eq_map_find?, ← List.getLast?_filter, ← hcodes, List.getLast?_map, Option.map_map]
    rfl
  have hother : ∀ c : ClassDef, p.boundary.contains c.name ≠ p.isFramework m.owner →
      c.codesOf m = [] := by
    intro c hne
    refine ClassDef.codesOf_eq_nil fun hname => hne ?_
    rw [isFramework, hname]
  rw [hgraph, Image.applicationClasses]
  cases hframework : p.isFramework m.owner with
  | true =>
    rw [List.flatMap_eq_nil_iff.mpr]
    · rfl
    · intro c hc
      have happlication := (List.mem_filter.mp hc).2
      exact hother c (by simpa [hframework] using happlication)
  | false =>
    rw [flatMap_filter_of_eq_nil]
    · rfl
    · intro c _ hc
      exact hother c (by simpa [hframework] using hc)

/-- The index agrees with the class table if it holds the graph of what the table has. -/
theorem indexAgrees_iff_graph?_eq :
    p.IndexAgrees m ↔
      p.graph? m =
        if p.isFramework m.owner then none else (p.tableCode? m).map BlockGraph.ofCode := by
  have htable : ∀ g,
      (if p.isFramework m.owner then none else (p.tableCode? m).map BlockGraph.ofCode) = some g ↔
        p.isFramework m.owner = false ∧
          ∃ d code, p.findMethod? m = some d ∧ d.code = some code ∧ g = .ofCode code := by
    intro g
    rw [tableCode?]
    cases p.isFramework m.owner with
    | true => simp
    | false =>
      simp only [Bool.false_eq_true, if_false, true_and, Option.map_eq_some_iff,
        Option.bind_eq_some_iff]
      constructor
      · rintro ⟨code, ⟨d, hd, hcode⟩, rfl⟩
        exact ⟨d, code, hd, hcode, rfl⟩
      · rintro ⟨d, code, hd, hcode, rfl⟩
        exact ⟨code, ⟨d, hd, hcode⟩, rfl⟩
  rw [IndexAgrees, Option.ext_iff]
  exact forall_congr' fun g => by rw [htable g]

/-! ## Where the two agree -/

/-- **Where the index and the class table agree**: on the framework, and where the first declaration
in the class filed under the owner and the last one with code in the classes of that name have the
same code. -/
theorem indexAgrees_iff :
    p.IndexAgrees m ↔
      p.isFramework m.owner = true ∨ p.tableCode? m = (p.listedCodes m).getLast? := by
  rw [indexAgrees_iff_graph?_eq, graph?_eq_map_getLast?]
  cases p.isFramework m.owner with
  | true => simp
  | false =>
    -- a graph carries its code, so that graphs of different codes differ
    have hinjective : Function.Injective BlockGraph.ofCode := fun _ _ h =>
      congrArg BlockGraph.code h
    simp only [Bool.false_eq_true, if_false, false_or, (Option.map_injective hinjective).eq_iff,
      eq_comm]

/-- In an image filed by name in which no class declares a method twice the index and the class table
agree on every method. -/
theorem indexAgrees_of_filed (hfiled : p.image.Filed)
    (hnodup : ∀ c ∈ p.image.classList, (c.methods.map c.methodRef).Nodup) (m : MethodRef) :
    p.IndexAgrees m := by
  rw [indexAgrees_iff_graph?_eq, graph?_eq_of_filed hfiled, tableCode?, findMethod?,
    Image.findMethod?, getClass?]
  cases hc : p.image.getClass? m.owner with
  | none => rfl
  | some c =>
    have hcodes := ClassDef.codesOf_eq_of_nodup (m := m) (hfiled m.owner c hc)
      (hnodup c (Image.mem_classList.mpr ⟨m.owner, hc⟩))
    have hlast : (c.bodies.reverse.find? (·.1 = m)).map Prod.snd =
        (c.findMethod? m.name m.descriptor).bind (·.code) := by
      rw [← List.getLast?_filter, ← List.getLast?_map, c.map_snd_filter_bodies, hcodes]
      cases (c.findMethod? m.name m.descriptor).bind (·.code) <;> rfl
    rw [Option.bind_some, Option.bind_some, ← hlast, Option.map_map]
    rfl

/-- **The index and the class table**: the exact condition under which they agree on a method, which
orderly images meet for every method. -/
theorem index_agrees_exactly (p : Program) :
    (∀ m, p.IndexAgrees m ↔
      p.isFramework m.owner = true ∨ p.tableCode? m = (p.listedCodes m).getLast?) ∧
    (p.image.Filed → (∀ c ∈ p.image.classList, (c.methods.map c.methodRef).Nodup) →
      ∀ m, p.IndexAgrees m) :=
  ⟨fun _ => indexAgrees_iff, fun hfiled hnodup m => indexAgrees_of_filed hfiled hnodup m⟩

/-- A class that declares a method first without and then with code, and a class filed under a key
that is not its name. -/
def misfiledImage : Image :=
  let lamp : ClassDef := ⟨"Lamp", none, [], [⟨"dim", "()V", none⟩, .returning "dim"], []⟩
  let fan : ClassDef := ⟨"Fan", none, [], [.returning "spin"], []⟩
  ⟨.ofList [("Lamp", lamp), ("Vent", fan)]⟩

/-- The program of these classes. -/
def misfiledProgram : Program :=
  .ofNonempty misfiledImage .none (by decide +kernel)

/-- The image can be read. The index has a graph of a method that is found without code, none of a
method that is found with code, and one of a method that is not found. -/
theorem index_disagrees_misfiled :
    let dim : MethodRef := ⟨"Lamp", "dim", "()V"⟩
    let filed : MethodRef := ⟨"Vent", "spin", "()V"⟩
    let named : MethodRef := ⟨"Fan", "spin", "()V"⟩
    Image.ofJson? misfiledProgram.image.toJson = some misfiledProgram.image ∧
      misfiledProgram.findMethod? dim = some ⟨"dim", "()V", none⟩ ∧
      (misfiledProgram.graph? dim).isSome = true ∧
      misfiledProgram.findMethod? filed = some (.returning "spin") ∧
      misfiledProgram.graph? filed = none ∧
      misfiledProgram.findMethod? named = none ∧
      (misfiledProgram.graph? named).isSome = true ∧
      ∀ m ∈ [dim, filed, named], ¬ misfiledProgram.IndexAgrees m := by
  refine ⟨Image.ofJson?_toJson _, ?_⟩
  simp only [indexAgrees_iff]
  decide +kernel

end Program

end CallAtlas
