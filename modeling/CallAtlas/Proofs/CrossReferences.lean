import CallAtlas.Proofs.Search
import CallAtlas.Xref

/-!
# Callers and callees

The index of cross references records every resolved call twice, under its caller and under its
callee. The two records of a call from a method to itself are one and the same, so the second entry
must not undo the first. Each of them adds to one of two sets; what a set holds after any number of
calls is what its own entries say, whatever was recorded in between. So the callees of a method and
its callers say the same as the list of resolved calls.

## Main definitions

* `CallGraph.Resolves`: a call site is resolved to a method
* `XrefIndex.ListsCallee`, `XrefIndex.ListsCaller`: the records of the methods of an index
* `Program.Defines`: the image holds a definition of a class

## Main results

* `XrefIndex.getD_addCall`, `XrefIndex.mem_addCall`: what one call adds
* `XrefIndex.mem_foldl_addCall`: what any number of calls come to
* `Program.classUsage?_eq_some_iff`: the uses of a class that count
* `XrefIndex.callers_dual_callees`: callers and callees are dual and complete
-/

namespace CallAtlas

/-- The graph resolves the call at an offset of a method to another method. -/
def CallGraph.Resolves (g : CallGraph) (caller callee : MethodRef) (site : Offset) : Prop :=
  ∃ r ∈ g.resolved, r.caller = caller ∧ r.callee = callee ∧ r.site = site

namespace XrefIndex

variable {x : XrefIndex} {methods : Std.ExtTreeMap MethodRef MethodXref} {m : MethodRef}
  {c : ResolvedCall} {y : CallSite}

/-! ## One call -/

/-- What the record of a method holds after a call: one more callee for the caller, and one more
caller for the callee. -/
theorem getD_addCall (methods : Std.ExtTreeMap MethodRef MethodXref) (c : ResolvedCall)
    (m : MethodRef) :
    (addCall methods c).getD m .empty =
      { callers := if c.callee = m then (methods.getD m .empty).callers.insert ⟨c.caller, c.site⟩
          else (methods.getD m .empty).callers
        callees := if c.caller = m then (methods.getD m .empty).callees.insert ⟨c.callee, c.site⟩
          else (methods.getD m .empty).callees } := by
  simp only [addCall, Std.ExtTreeMap.getD_insert, Std.LawfulEqOrd.compare_eq_iff_eq]
  by_cases hcallee : c.callee = m
  · -- the record of the callee starts from what that of the caller has made of it
    subst hcallee
    by_cases hcaller : c.caller = c.callee <;> simp [hcaller]
  · by_cases hcaller : c.caller = m <;> simp [hcallee, hcaller]

theorem mem_addCall : m ∈ addCall methods c ↔ m ∈ methods ∨ c.caller = m ∨ c.callee = m := by
  simp only [addCall, Std.ExtTreeMap.mem_insert, Std.LawfulEqOrd.compare_eq_iff_eq]
  tauto

/-! ## Any number of calls -/

/-- **What any number of calls come to**: a set that every call adds one entry to, under one method,
holds what it held before and the entries of its own calls. -/
theorem mem_foldl_addCall {view : MethodXref → Std.ExtTreeSet CallSite}
    {key : ResolvedCall → MethodRef} {entry : ResolvedCall → CallSite}
    (hstep : ∀ methods c m, view ((addCall methods c).getD m .empty) =
      if key c = m then (view (methods.getD m .empty)).insert (entry c)
      else view (methods.getD m .empty)) (calls : List ResolvedCall) :
    y ∈ view ((calls.foldl addCall methods).getD m .empty) ↔
      y ∈ view (methods.getD m .empty) ∨ ∃ c ∈ calls, key c = m ∧ entry c = y := by
  induction calls generalizing methods with
  | nil => simp
  | cons c calls ih =>
    rw [List.foldl_cons, ih, hstep, List.exists_mem_cons_iff, ← or_assoc]
    refine or_congr_left ?_
    by_cases hkey : key c = m
    · rw [if_pos hkey, Std.ExtTreeSet.mem_insert, Std.LawfulEqOrd.compare_eq_iff_eq]
      simp [hkey, or_comm]
    · rw [if_neg hkey]
      simp [hkey]

theorem mem_foldl_addCall_keys (calls : List ResolvedCall) :
    m ∈ calls.foldl addCall methods ↔ m ∈ methods ∨ ∃ c ∈ calls, c.caller = m ∨ c.callee = m := by
  induction calls generalizing methods with
  | nil => simp
  | cons c calls ih =>
    rw [List.foldl_cons, ih, mem_addCall, List.exists_mem_cons_iff, or_assoc]

/-! ## The records of a method -/

/-- The record of a method lists the call of another one at an offset. -/
def ListsCallee (x : XrefIndex) (m callee : MethodRef) (site : Offset) : Prop :=
  ∃ r, x.methodXref? m = some r ∧ ⟨callee, site⟩ ∈ r.callees

/-- The record of a method lists the call by another one at an offset of that one. -/
def ListsCaller (x : XrefIndex) (m caller : MethodRef) (site : Offset) : Prop :=
  ∃ r, x.methodXref? m = some r ∧ ⟨caller, site⟩ ∈ r.callers

/-- A method without record has no entry. -/
theorem exists_methodXref?_iff {view : MethodXref → Std.ExtTreeSet CallSite}
    (hempty : view .empty = ∅) :
    (∃ r, x.methodXref? m = some r ∧ y ∈ view r) ↔ y ∈ view (x.methods.getD m .empty) := by
  rw [methodXref?, Std.ExtTreeMap.getD_eq_getD_getElem?]
  cases x.methods[m]? with
  | none => simp [hempty]
  | some r => simp

end XrefIndex

/-! ## Uses of classes -/

namespace Program

variable {p : Program} {m : MethodRef} {used : String} {site : Offset} {kind : UsageKind}
  {u : ClassUsage} {i : Instruction} {c : ResolvedCall}

/-- The image holds a definition of the class, filed under its name. -/
def Defines (p : Program) (className : String) : Prop := ∃ cls, p.getClass? className = some cls

/-- The uses of a class that count are those by other classes, if it is defined. -/
theorem classUsage?_eq_some_iff :
    p.classUsage? m used site kind = some u ↔
      m.owner ≠ used ∧ p.Defines used ∧ ⟨m.owner, used, m, site, kind⟩ = u := by
  rw [classUsage?, Defines, ← Option.isSome_iff_exists]
  by_cases hsame : m.owner = used <;> cases p.getClass? used <;> simp [hsame]

/-- Instructions other than calls use classes in other ways. -/
theorem kind_of_instructionUsage? (h : p.instructionUsage? m i = some u) : u.kind ≠ .call := by
  rw [instructionUsage?] at h
  split at h
  · obtain ⟨-, -, rfl⟩ := classUsage?_eq_some_iff.mp h
    exact nofun
  · obtain ⟨-, -, rfl⟩ := classUsage?_eq_some_iff.mp h
    exact nofun
  · cases h

theorem callUsage?_eq_some_iff :
    p.callUsage? c = some u ↔
      c.kind ≠ .framework ∧ c.caller.owner ≠ c.callee.owner ∧ p.Defines c.callee.owner ∧
        ⟨c.caller.owner, c.callee.owner, c.caller, c.site, .call⟩ = u := by
  rw [callUsage?, ← classUsage?_eq_some_iff]
  by_cases hkind : c.kind = .framework <;> simp [hkind]

end Program

/-! ## The index of a program -/

namespace XrefIndex

variable {p : Program} {g : CallGraph} {m n : MethodRef} {s : Offset} {u : ClassUsage}

theorem methods_build (p : Program) (g : CallGraph) :
    (build p g).methods = g.resolved.foldl addCall ∅ := rfl

theorem listsCallee_build : (build p g).ListsCallee m n s ↔ g.Resolves m n s := by
  have hstep := fun methods c m => congrArg MethodXref.callees (getD_addCall methods c m)
  rw [ListsCallee, exists_methodXref?_iff rfl, methods_build, mem_foldl_addCall hstep]
  simp [CallGraph.Resolves, MethodXref.empty]

theorem listsCaller_build : (build p g).ListsCaller n m s ↔ g.Resolves m n s := by
  have hstep := fun methods c m => congrArg MethodXref.callers (getD_addCall methods c m)
  rw [ListsCaller, exists_methodXref?_iff rfl, methods_build, mem_foldl_addCall hstep]
  simp [CallGraph.Resolves, MethodXref.empty, and_left_comm]

theorem isSome_methodXref?_build :
    ((build p g).methodXref? m).isSome = true ↔ ∃ r ∈ g.resolved, r.caller = m ∨ r.callee = m := by
  rw [methodXref?, ← Std.ExtTreeMap.mem_iff_isSome_getElem?, methods_build, mem_foldl_addCall_keys]
  simp

theorem mem_usages_build :
    u ∈ (build p g).usages ↔
      (∃ m i, (m, i) ∈ p.instructions ∧ p.instructionUsage? m i = some u) ∨
        ∃ c ∈ g.resolved, p.callUsage? c = some u := by
  rw [build, Search.mem_ofList, List.mem_append, List.mem_filterMap, List.mem_filterMap]
  refine or_congr_left ?_
  constructor
  · rintro ⟨⟨m, i⟩, hmem, h⟩
    exact ⟨m, i, hmem, h⟩
  · rintro ⟨m, i, hmem, h⟩
    exact ⟨(m, i), hmem, h⟩

/-- **Callers and callees are dual and complete.** A method lists a callee, and the callee lists the
method as caller, exactly if a call at that offset is resolved so; the methods with a record are the
callers and callees of resolved calls. The class uses by calls are those of the resolved calls inside
the application from one class to another one that is defined. -/
theorem callers_dual_callees (p : Program) (g : CallGraph) :
    (∀ m n s, ((build p g).ListsCallee m n s ↔ g.Resolves m n s) ∧
      ((build p g).ListsCaller n m s ↔ g.Resolves m n s)) ∧
      (∀ m, ((build p g).methodXref? m).isSome = true ↔
        ∃ r ∈ g.resolved, r.caller = m ∨ r.callee = m) ∧
      ∀ u, (u ∈ (build p g).usages ∧ u.kind = .call) ↔
        ∃ r ∈ g.resolved, r.kind ≠ .framework ∧ r.caller.owner ≠ r.callee.owner ∧
          p.Defines r.callee.owner ∧
          u = ⟨r.caller.owner, r.callee.owner, r.caller, r.site, .call⟩ := by
  refine ⟨fun m n s => ⟨listsCallee_build, listsCaller_build⟩, fun m => isSome_methodXref?_build,
    fun u => ?_⟩
  rw [mem_usages_build]
  constructor
  · rintro ⟨⟨m, i, -, h⟩ | ⟨c, hc, h⟩, hcall⟩
    · exact absurd hcall (Program.kind_of_instructionUsage? h)
    · obtain ⟨hkind, hne, hdefines, rfl⟩ := Program.callUsage?_eq_some_iff.mp h
      exact ⟨c, hc, hkind, hne, hdefines, rfl⟩
  · rintro ⟨r, hr, hkind, hne, hdefines, rfl⟩
    exact ⟨.inr ⟨r, hr, Program.callUsage?_eq_some_iff.mpr ⟨hkind, hne, hdefines, rfl⟩⟩, rfl⟩

end XrefIndex

end CallAtlas
