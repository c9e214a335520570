import CallAtlas.Proofs.ExplicitCalls

/-!
# The callbacks that registrations give rise to

A call refers to the first class on its superclass chain for which the registration table has an
entry; other than a resolution, this climb passes through the framework. Each position of the entry
names a callback, and each class that may hold its implementation, and does have a body of it, is
called back from the placeholder of the registration method. Two positions, or two call
instructions, may well give the same edge. So the edges are told apart by what causes them: a call
instruction, a position, and the method that is called back.

## Main definitions

* `Program.RefersTo`: the class for which a call finds an entry of the table
* `Program.IsCandidate`: the classes that may hold the implementation of a callback
* `Program.CallsBack`: the methods that a call registers
* `CallbackCause`, `Program.causesOf`: what stands behind a callback, and its list for one call

## Main results

* `Program.registration?_eq_some_iff`: the entry of the table that a call refers to
* `Program.mem_callbackCandidates`, `Program.nodup_callbackCandidates`: the candidates at a position
* `Program.mem_causesOf`, `Program.nodup_causesOf`: the causes of one call instruction
* `Program.mem_flatMap_causesOf`, `Program.nodup_flatMap_causesOf`: those of all of them
* `CallGraph.filter_callback_calls_build`: the callbacks, call instruction by call instruction
* `CallGraph.callback_calls_build`: the callbacks of a call graph are the edges of their causes,
  one for each cause
-/

namespace CallAtlas

/-- What stands behind a callback: a call instruction, given by its caller and offset, the
registration method that it refers to, a position of the entry, and the method called back. -/
structure CallbackCause where
  caller : MethodRef
  site : Offset
  registration : MethodRef
  position : Position
  target : MethodRef
deriving DecidableEq

/-- The edge of a cause. -/
def CallbackCause.call (c : CallbackCause) : Call :=
  ⟨.placeholder c.registration, .block c.target .entry, c.site, .callback⟩

namespace Program

variable {p : Program} {table : RegistrationTable} {callbacks : Std.ExtTreeMap Position MethodRef}
  {callee registration callback m target : MethodRef} {position : Position} {caller : String}
  {inv : Invocation} {c : CallbackCause}

/-! ## What a call registers -/

/-- The first class that the climb from the owner of a call takes, framework or not, and for which
the table has an entry, and the callbacks of that entry. -/
def RefersTo (p : Program) (table : RegistrationTable) (callee : MethodRef) (x : String)
    (callbacks : Std.ExtTreeMap Position MethodRef) : Prop :=
  ∃ before after, p.hierarchy.Climbs [] callee.owner (before ++ x :: after) ∧
    table.get? (callee.withOwner x) = some callbacks ∧
    ∀ y ∈ before, table.get? (callee.withOwner y) = none

/-- The classes that may hold the implementation of a callback which a method of the class `caller`
registers: that class itself, or the classes strictly below the owner of the callback or the named
type. -/
def IsCandidate (p : Program) (caller : String) (callback : MethodRef) : Position → String → Prop
  | .receiver, r => r = caller
  | .argument _, r => r ≠ callback.owner ∧ Relation.ReflTransGen p.image.Link r callback.owner
  | .type name, r => r ≠ name ∧ Relation.ReflTransGen p.image.Link r name

/-- A call of `callee` in a method of the class `caller` refers to `registration`, and the framework
calls `target` back for the callback at `position`. -/
inductive CallsBack (p : Program) (table : RegistrationTable) (caller : String)
    (callee : MethodRef) : MethodRef → Position → MethodRef → Prop where
  | intro {x r : String} {callbacks : Std.ExtTreeMap Position MethodRef} {position : Position}
      {callback : MethodRef} (hx : p.RefersTo table callee x callbacks)
      (hcallback : callbacks[position]? = some callback)
      (hr : p.IsCandidate caller callback position r) (hbody : p.HasBody (callback.withOwner r)) :
    CallsBack p table caller callee (callee.withOwner x) position (callback.withOwner r)

theorem CallsBack.hasBody
    (h : p.CallsBack table caller callee registration position target) : p.HasBody target := by
  cases h with
  | intro _ _ _ hbody => exact hbody

theorem registration?_eq_some_iff :
    p.registration? table callee = some (registration, callbacks) ↔
      ∃ x, p.RefersTo table callee x callbacks ∧ registration = callee.withOwner x := by
  rw [registration?, List.findSome?_eq_some_iff]
  simp only [Option.map_eq_some_iff, Option.map_eq_none_iff, Prod.mk.injEq,
    ← Hierarchy.climbs_nil_iff]
  constructor
  · rintro ⟨before, x, after, hclimbs, ⟨_, hentry, rfl, rfl⟩, hbefore⟩
    exact ⟨x, ⟨before, after, hclimbs, hentry, hbefore⟩, rfl⟩
  · rintro ⟨x, ⟨before, after, hclimbs, hentry, hbefore⟩, rfl⟩
    exact ⟨before, x, after, hclimbs, ⟨callbacks, hentry, rfl, rfl⟩, hbefore⟩

/-- The candidates for a callback are its versions on the classes that may hold it. -/
theorem mem_callbackCandidates :
    m ∈ p.callbackCandidates caller position callback ↔
      ∃ r, p.IsCandidate caller callback position r ∧ callback.withOwner r = m := by
  cases position with
  | receiver => simp [callbackCandidates, IsCandidate, eq_comm]
  | argument index =>
    simp [callbackCandidates, IsCandidate, p.hierarchy_eq, Hierarchy.mem_descendants_ofImage]
  | type name =>
    simp [callbackCandidates, IsCandidate, p.hierarchy_eq, Hierarchy.mem_descendants_ofImage]

/-- No class is a candidate twice. -/
theorem nodup_callbackCandidates (p : Program) (caller : String) (position : Position)
    (callback : MethodRef) : (p.callbackCandidates caller position callback).Nodup := by
  have hinjective : Function.Injective callback.withOwner :=
    fun c d h => congrArg MethodRef.owner h
  cases position with
  | receiver => exact List.nodup_singleton _
  | argument index => exact (Hierarchy.nodup_descendants _ _).map hinjective
  | type name => exact (Hierarchy.nodup_descendants _ _).map hinjective

/-! ## The causes of callbacks -/

/-- The causes that one position of an entry contributes to an invocation. -/
def causesAt (p : Program) (inv : Invocation) (registration : MethodRef) (position : Position)
    (callback : MethodRef) : List CallbackCause :=
  ((p.callbackCandidates inv.caller.owner position callback).filter p.hasEntry).map
    (⟨inv.caller, inv.site, registration, position, ·⟩)

/-- The causes of callbacks that lie in an invocation, in order. -/
def causesOf (p : Program) (table : RegistrationTable) (inv : Invocation) : List CallbackCause :=
  match p.registration? table inv.callee with
  | none => []
  | some (registration, callbacks) =>
    callbacks.toList.flatMap fun (position, callback) =>
      p.causesAt inv registration position callback

/-- The callbacks of an invocation are the edges of its causes. -/
theorem implicitCalls_eq_map (p : Program) (table : RegistrationTable) (inv : Invocation) :
    p.implicitCalls table inv = (p.causesOf table inv).map CallbackCause.call := by
  rw [implicitCalls, implicitTargets, causesOf]
  cases p.registration? table inv.callee with
  | none => rfl
  | some entry =>
    simp only [List.map_flatMap, causesAt, List.map_map]
    rfl

theorem mem_causesAt :
    c ∈ p.causesAt inv registration position callback ↔
      c.caller = inv.caller ∧ c.site = inv.site ∧ c.registration = registration ∧
        c.position = position ∧
        ∃ r, p.IsCandidate inv.caller.owner callback position r ∧
          p.HasBody (callback.withOwner r) ∧ c.target = callback.withOwner r := by
  simp only [causesAt, List.mem_map, List.mem_filter, mem_callbackCandidates, hasEntry_iff]
  constructor
  · rintro ⟨_, ⟨⟨r, hr, rfl⟩, hbody⟩, rfl⟩
    exact ⟨rfl, rfl, rfl, rfl, r, hr, hbody, rfl⟩
  · rintro ⟨hcaller, hsite, hregistration, hposition, r, hr, hbody, htarget⟩
    refine ⟨callback.withOwner r, ⟨⟨r, hr, rfl⟩, hbody⟩, ?_⟩
    rw [← hcaller, ← hsite, ← hregistration, ← hposition, ← htarget]

/-- The causes that lie in an invocation are what it registers. -/
theorem mem_causesOf :
    c ∈ p.causesOf table inv ↔
      c.caller = inv.caller ∧ c.site = inv.site ∧
        p.CallsBack table inv.caller.owner inv.callee c.registration c.position c.target := by
  rw [causesOf]
  constructor
  · intro hc
    split at hc
    next => cases hc
    next registration callbacks hentry =>
      obtain ⟨x, hx, rfl⟩ := registration?_eq_some_iff.mp hentry
      obtain ⟨⟨position, callback⟩, hmem, hc⟩ := List.mem_flatMap.mp hc
      have hcallback : callbacks[position]? = some callback :=
        Std.ExtTreeMap.mem_toList_iff_getElem?_eq_some.mp hmem
      obtain ⟨hcaller, hsite, hregistration, hposition, r, hr, hbody, htarget⟩ := mem_causesAt.mp hc
      rw [hregistration, hposition, htarget]
      exact ⟨hcaller, hsite, .intro hx hcallback hr hbody⟩
  · rintro ⟨hcaller, hsite, hback⟩
    obtain ⟨_, _, registration, position, target⟩ := c
    cases hback with
    | @intro x r callbacks _ callback hx hcallback hr hbody =>
      rw [registration?_eq_some_iff.mpr ⟨x, hx, rfl⟩]
      refine List.mem_flatMap.mpr ⟨(position, callback), ?_, ?_⟩
      · exact Std.ExtTreeMap.mem_toList_iff_getElem?_eq_some.mpr hcallback
      · exact mem_causesAt.mpr ⟨hcaller, hsite, rfl, rfl, r, hr, hbody, rfl⟩

/-- An invocation has no cause twice. -/
theorem nodup_causesOf (p : Program) (table : RegistrationTable) (inv : Invocation) :
    (p.causesOf table inv).Nodup := by
  rw [causesOf]
  split
  next => exact List.nodup_nil
  next registration callbacks _ =>
    refine List.nodup_flatMap.mpr ⟨?_, ?_⟩
    · rintro ⟨position, callback⟩ -
      refine ((p.nodup_callbackCandidates _ position callback).filter p.hasEntry).map ?_
      intro m m' h
      exact congrArg CallbackCause.target h
    · -- the position is part of the cause, and an entry has one callback for each
      refine Std.ExtTreeMap.distinct_keys_toList.imp ?_
      rintro ⟨position, callback⟩ ⟨position', callback'⟩ hne c hc hc'
      obtain ⟨-, -, -, hposition, -⟩ := mem_causesAt.mp hc
      obtain ⟨-, -, -, hposition', -⟩ := mem_causesAt.mp hc'
      exact hne (Std.LawfulEqOrd.compare_eq_iff_eq.mpr (hposition.symm.trans hposition'))

/-- The causes in all call instructions of a program. -/
theorem mem_flatMap_causesOf :
    c ∈ p.invocations.flatMap (p.causesOf table) ↔
      ∃ b i callee, p.Invokes c.caller b i callee ∧ c.site = i.addr ∧
        p.CallsBack table c.caller.owner callee c.registration c.position c.target := by
  simp only [List.mem_flatMap, mem_invocations, mem_causesOf]
  constructor
  · rintro ⟨inv, ⟨b, i, hinvokes, -, hsite⟩, hcaller, hsite', hback⟩
    rw [← hcaller] at hinvokes hback
    exact ⟨b, i, inv.callee, hinvokes, hsite'.trans hsite, hback⟩
  · rintro ⟨b, i, callee, hinvokes, hsite, hback⟩
    exact ⟨⟨c.caller, b.start, i.addr, callee⟩, ⟨b, i, hinvokes, rfl, rfl⟩, rfl, hsite, hback⟩

/-- The call instructions of a program have no cause twice. -/
theorem nodup_flatMap_causesOf (p : Program) (table : RegistrationTable) :
    (p.invocations.flatMap (p.causesOf table)).Nodup := by
  refine List.nodup_flatMap.mpr ⟨fun inv _ => p.nodup_causesOf table inv, ?_⟩
  refine p.pairwise_invocations.imp ?_
  intro i j hij c hi hj
  obtain ⟨hcaller, hsite, -⟩ := mem_causesOf.mp hi
  obtain ⟨hcaller', hsite', -⟩ := mem_causesOf.mp hj
  exact hij ⟨hcaller.symm.trans hcaller', hsite.symm.trans hsite'⟩

/-- Explicit calls apart, an invocation contributes the edges of its causes. -/
theorem filter_callback_callsOf (p : Program) (table : RegistrationTable) (inv : Invocation) :
    (p.callsOf (some table) inv).filter (·.kind = .callback) =
      (p.causesOf table inv).map CallbackCause.call := by
  have hexplicit : (p.explicitCalls inv).filter (·.kind = .callback) = [] := by
    refine List.filter_eq_nil_iff.mpr ?_
    intro e he hkind
    have hisExplicit := (mem_explicitCalls.mp he).2.2.isExplicit
    rw [of_decide_eq_true hkind] at hisExplicit
    cases hisExplicit
  have himplicit : (p.implicitCalls table inv).filter (·.kind = .callback) =
      (p.causesOf table inv).map CallbackCause.call := by
    rw [implicitCalls_eq_map]
    refine List.filter_eq_self.mpr ?_
    intro e he
    obtain ⟨c, -, rfl⟩ := List.mem_map.mp he
    rfl
  rw [callsOf, List.filter_append, hexplicit, himplicit, List.nil_append]

end Program

namespace CallGraph

/-- The callbacks of a call graph, call instruction by call instruction. -/
theorem filter_callback_calls_build (p : Program) (table : RegistrationTable) :
    (build p (some table)).calls.filter (·.kind = .callback) =
      (p.invocations.flatMap (p.causesOf table)).map CallbackCause.call := by
  rw [calls_build, List.filter_flatMap, List.map_flatMap]
  simp only [Program.filter_callback_callsOf]

/-- **The callbacks of a call graph** are the edges of their causes, one for each: a call
instruction of a method, a position of the entry that the call refers to, and a method with a body
that implements the callback at that position. -/
theorem callback_calls_build (p : Program) (table : RegistrationTable) :
    ∃ causes : List CallbackCause, causes.Nodup ∧
      (∀ c, c ∈ causes ↔
        ∃ b i callee, p.Invokes c.caller b i callee ∧ c.site = i.addr ∧
          p.CallsBack table c.caller.owner callee c.registration c.position c.target) ∧
      (build p (some table)).calls.filter (·.kind = .callback) =
        causes.map CallbackCause.call := by
  refine ⟨p.invocations.flatMap (p.causesOf table), p.nodup_flatMap_causesOf table, ?_, ?_⟩
  · intro c
    exact Program.mem_flatMap_causesOf
  · exact filter_callback_calls_build p table

end CallGraph

end CallAtlas
