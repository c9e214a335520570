import CallAtlas.CallGraph.Basic

/-!
# Cross references

Which classes, fields and strings the code of the application uses, and which methods call each
other. References to classes and fields that the image does not define are dropped, and so are uses
of a class by itself.

## Main definitions

* `ClassUsage`, `FieldAccess`, `MethodXref`: the records of the index
* `XrefIndex`, `XrefIndex.build`: the index of a program and its call graph
* `XrefIndex.classUses`, `XrefIndex.classUsers`, `XrefIndex.fieldAccesses`,
  `XrefIndex.stringUsers?`, `XrefIndex.methodXref?`: queries
-/

namespace CallAtlas

/-- How a class is used. -/
inductive UsageKind where
  /-- An instance is created. -/
  | instantiation
  /-- The class literal is loaded. -/
  | typeUsage
  /-- A method is called. -/
  | call
deriving DecidableEq, Inhabited

namespace UsageKind

/-- The kinds, in order. -/
def all : List UsageKind := [.instantiation, .typeUsage, .call]

/-- The word for a kind. -/
def text : UsageKind → String
  | instantiation => "new"
  | typeUsage => "type"
  | call => "call"

/-- The place of a kind in the order. -/
def rank : UsageKind → Nat
  | instantiation => 0
  | typeUsage => 1
  | call => 2

theorem rank_inj {a b : UsageKind} (h : a.rank = b.rank) : a = b := by
  cases a <;> cases b <;> simp_all [rank]

end UsageKind

/-- The use of a class by an instruction of a method of another class. -/
structure ClassUsage where
  user : String
  used : String
  method : MethodRef
  site : Offset
  kind : UsageKind
deriving DecidableEq, Inhabited

namespace ClassUsage

instance : Ord ClassUsage :=
  ⟨compareLex (compareOn user) (compareLex (compareOn used) (compareLex (compareOn method)
    (compareLex (compareOn site) (compareOn fun u => u.kind.rank))))⟩

instance : Std.TransOrd ClassUsage :=
  inferInstanceAs (Std.TransCmp
    (compareLex (compareOn user) (compareLex (compareOn used) (compareLex (compareOn method)
      (compareLex (compareOn site) (compareOn fun u => u.kind.rank))))))

instance : Std.LawfulEqOrd ClassUsage where
  eq_of_compare {a b} h := by
    obtain ⟨h₁, h⟩ := compareLex_eq_eq.mp h
    obtain ⟨h₂, h⟩ := compareLex_eq_eq.mp h
    obtain ⟨h₃, h⟩ := compareLex_eq_eq.mp h
    obtain ⟨h₄, h₅⟩ := compareLex_eq_eq.mp h
    simp only [compareOn, Std.LawfulEqOrd.compare_eq_iff_eq] at h₁ h₂ h₃ h₄ h₅
    have h₅ := UsageKind.rank_inj h₅
    cases a
    cases b
    simp_all

end ClassUsage

/-- How a field is accessed. -/
inductive AccessMode where
  | read
  | write
deriving DecidableEq, Inhabited

namespace AccessMode

/-- The modes, in order. -/
def all : List AccessMode := [.read, .write]

/-- Whether the field is written. -/
def isWrite : AccessMode → Bool
  | read => false
  | write => true

theorem isWrite_inj {a b : AccessMode} (h : a.isWrite = b.isWrite) : a = b := by
  cases a <;> cases b <;> simp_all [isWrite]

end AccessMode

/-- The access to a field by an instruction. -/
structure FieldAccess where
  method : MethodRef
  site : Offset
  field : FieldRef
  mode : AccessMode
deriving DecidableEq, Inhabited

namespace FieldAccess

instance : Ord FieldAccess :=
  ⟨compareLex (compareOn method) (compareLex (compareOn site) (compareLex (compareOn field)
    (compareOn fun a => a.mode.isWrite)))⟩

instance : Std.TransOrd FieldAccess :=
  inferInstanceAs (Std.TransCmp
    (compareLex (compareOn method) (compareLex (compareOn site) (compareLex (compareOn field)
      (compareOn fun a => a.mode.isWrite)))))

instance : Std.LawfulEqOrd FieldAccess where
  eq_of_compare {a b} h := by
    obtain ⟨h₁, h⟩ := compareLex_eq_eq.mp h
    obtain ⟨h₂, h⟩ := compareLex_eq_eq.mp h
    obtain ⟨h₃, h₄⟩ := compareLex_eq_eq.mp h
    simp only [compareOn, Std.LawfulEqOrd.compare_eq_iff_eq] at h₁ h₂ h₃ h₄
    have h₄ := AccessMode.isWrite_inj h₄
    cases a
    cases b
    simp_all

end FieldAccess

/-- A method at the other end of a call, and the offset of the call in its caller. -/
structure CallSite where
  method : MethodRef
  site : Offset
deriving DecidableEq, Inhabited

namespace CallSite

instance : Ord CallSite := ⟨compareLex (compareOn method) (compareOn site)⟩

instance : Std.TransOrd CallSite :=
  inferInstanceAs (Std.TransCmp (compareLex (compareOn method) (compareOn site)))

instance : Std.LawfulEqOrd CallSite where
  eq_of_compare {a b} h := by
    obtain ⟨h₁, h₂⟩ := compareLex_eq_eq.mp h
    simp only [compareOn, Std.LawfulEqOrd.compare_eq_iff_eq] at h₁ h₂
    cases a
    cases b
    simp_all

end CallSite

/-- The callers and the callees of a method. -/
structure MethodXref where
  callers : Std.ExtTreeSet CallSite
  callees : Std.ExtTreeSet CallSite

/-- The record of a method without caller and callee. -/
def MethodXref.empty : MethodXref := ⟨∅, ∅⟩

instance : Inhabited MethodXref := ⟨.empty⟩

namespace Program

/-- The instructions of the application with the methods that hold them, in order. -/
def instructions (p : Program) : List (MethodRef × Instruction) :=
  p.graphList.flatMap fun (m, g) => (g.blocks.flatMap Block.instructions).map (m, ·)

/-- The use of a class by a method of another one, when the image defines the class. -/
def classUsage? (p : Program) (method : MethodRef) (used : String) (site : Offset)
    (kind : UsageKind) : Option ClassUsage :=
  if method.owner = used ∨ (p.getClass? used).isNone then none
  else some ⟨method.owner, used, method, site, kind⟩

/-- The use of a class that an instruction makes. -/
def instructionUsage? (p : Program) (m : MethodRef) (i : Instruction) : Option ClassUsage :=
  match i.operation with
  | .newInstance used => p.classUsage? m used i.addr .instantiation
  | .constClass used => p.classUsage? m used i.addr .typeUsage
  | _ => none

/-- The field that an instruction names, and how it accesses it. -/
def namedField? (i : Instruction) : Option (FieldRef × AccessMode) :=
  match i.operation with
  | .fieldGet f => some (f, .read)
  | .fieldPut f => some (f, .write)
  | _ => none

/-- The access to a field that an instruction makes, when the image declares the field. -/
def instructionAccess? (p : Program) (m : MethodRef) (i : Instruction) : Option FieldAccess :=
  match namedField? i with
  | none => none
  | some (f, mode) =>
    if (p.findField? f).isSome then some ⟨m, i.addr, f, mode⟩ else none

/-- The string that an instruction loads. -/
def loadedString? (i : Instruction) : Option String :=
  match i.operation with
  | .constString s => some s
  | _ => none

/-- The use of a class that a resolved call makes; calls into the framework do not count. -/
def callUsage? (p : Program) (c : ResolvedCall) : Option ClassUsage :=
  if c.kind = .framework then none else p.classUsage? c.caller c.callee.owner c.site .call

end Program

/-- The cross references of a program. -/
structure XrefIndex where
  usages : Std.ExtTreeSet ClassUsage
  accesses : Std.ExtTreeSet FieldAccess
  /-- The methods that load each string. -/
  strings : Std.ExtTreeMap String (Std.ExtTreeSet MethodRef)
  methods : Std.ExtTreeMap MethodRef MethodXref

namespace XrefIndex

/-- The index without record. -/
def empty : XrefIndex := ⟨∅, ∅, ∅, ∅⟩

instance : Inhabited XrefIndex := ⟨empty⟩

/-- Records that a method loads a string. -/
def addString (strings : Std.ExtTreeMap String (Std.ExtTreeSet MethodRef)) (m : MethodRef)
    (value : String) : Std.ExtTreeMap String (Std.ExtTreeSet MethodRef) :=
  strings.insert value ((strings.getD value ∅).insert m)

/-- Records a call under its caller and under its callee. -/
def addCall (methods : Std.ExtTreeMap MethodRef MethodXref) (c : ResolvedCall) :
    Std.ExtTreeMap MethodRef MethodXref :=
  let caller := methods.getD c.caller .empty
  let methods := methods.insert c.caller
    { caller with callees := caller.callees.insert ⟨c.callee, c.site⟩ }
  let callee := methods.getD c.callee .empty
  methods.insert c.callee { callee with callers := callee.callers.insert ⟨c.caller, c.site⟩ }

/-- The index of the code of a program and of the calls resolved in a call graph. -/
def build (p : Program) (g : CallGraph) : XrefIndex where
  usages := Std.ExtTreeSet.ofList
    ((p.instructions.filterMap fun (m, i) => p.instructionUsage? m i)
      ++ g.resolved.filterMap p.callUsage?)
  accesses := Std.ExtTreeSet.ofList
    (p.instructions.filterMap fun (m, i) => p.instructionAccess? m i)
  strings := p.instructions.foldl (fun strings (m, i) =>
    match Program.loadedString? i with
    | none => strings
    | some value => addString strings m value) ∅
  methods := g.resolved.foldl addCall ∅

/-- The uses that a class makes of others. -/
def classUses (x : XrefIndex) (className : String) : List ClassUsage :=
  x.usages.toList.filter (·.user = className)

/-- The uses that others make of a class. -/
def classUsers (x : XrefIndex) (className : String) : List ClassUsage :=
  x.usages.toList.filter (·.used = className)

/-- The accesses to a field. -/
def fieldAccesses (x : XrefIndex) (field : FieldRef) : List FieldAccess :=
  x.accesses.toList.filter (·.field = field)

/-- The accesses that read a field. -/
def fieldReads (x : XrefIndex) (field : FieldRef) : List FieldAccess :=
  (x.fieldAccesses field).filter (·.mode = .read)

/-- The accesses that write a field. -/
def fieldWrites (x : XrefIndex) (field : FieldRef) : List FieldAccess :=
  (x.fieldAccesses field).filter (·.mode = .write)

/-- The methods that load a string, none when there is none. -/
def stringUsers? (x : XrefIndex) (value : String) : Option (Std.ExtTreeSet MethodRef) :=
  x.strings[value]?

/-- The strings that are loaded, in order. -/
def stringList (x : XrefIndex) : List String := x.strings.keys

/-- The callers and callees of a method. -/
def methodXref? (x : XrefIndex) (m : MethodRef) : Option MethodXref := x.methods[m]?

end XrefIndex

end CallAtlas
