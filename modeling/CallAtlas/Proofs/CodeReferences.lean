import CallAtlas.Proofs.CrossReferences
import CallAtlas.Proofs.ExplicitCalls

/-!
# What the code refers to

The index of cross references is filled by a walk through the blocks of all methods. Blocks are
pieces of a body that leave nothing out, so the records of the walk are those of the instructions of
the bodies, wherever these are cut: the classes that instructions create or name, the fields that
they read or write, and the strings that they load. Records of classes and fields that the image
does not define are dropped, and so are uses of a class by itself.

## Main definitions

* `Operation.NamesClass`: an operation creates or names a class
* `Program.Performs`: the code of a method has an operation at an offset
* `Program.DeclaresField`: the class of a field declares one of its name
* `Program.loads`: the strings that methods load
* `XrefIndex.ListsUser`: a method is recorded as a user of a string

## Main results

* `Program.mem_instructions`: the walk meets the instructions of the bodies
* `Program.instructionUsage?_eq_some_iff`, `Program.instructionAccess?_eq_some_iff`: the record of
  one instruction
* `XrefIndex.listsUser_build`: the users of a string
* `XrefIndex.records_of_code`: the records of an index are those of the code
-/

namespace CallAtlas

namespace Operation

variable {op : Operation} {used : String}

/-- An operation names the class that it creates, or whose literal it loads. -/
inductive NamesClass : Operation → String → UsageKind → Prop where
  | newInstance (used : String) : NamesClass (.newInstance used) used .instantiation
  | constClass (used : String) : NamesClass (.constClass used) used .typeUsage

theorem namesClass_instantiation :
    NamesClass op used .instantiation ↔ op = .newInstance used := by
  constructor
  · rintro ⟨⟩
    rfl
  · rintro rfl
    exact .newInstance used

theorem namesClass_typeUsage :
    NamesClass op used .typeUsage ↔ op = .constClass used := by
  constructor
  · rintro ⟨⟩
    rfl
  · rintro rfl
    exact .constClass used

end Operation

namespace Program

variable {p : Program} {m : MethodRef} {i : Instruction} {s : Offset} {op : Operation}
  {f : FieldRef} {u : ClassUsage} {a : FieldAccess} {v : String}

/-! ## The instructions of the application -/

/-- The code of a method of the application has an operation at an offset. -/
def Performs (p : Program) (m : MethodRef) (s : Offset) (op : Operation) : Prop :=
  ∃ g, p.graph? m = some g ∧ ∃ i ∈ g.code.instructions, i.addr = s ∧ i.operation = op

/-- The blocks of a graph hold the instructions of its code. -/
theorem flatMap_blocks_of_graph?_eq_some {g : BlockGraph} (h : p.graph? m = some g) :
    g.blocks.flatMap Block.instructions = g.code.instructions := by
  obtain ⟨code, -, rfl⟩ := exists_body_of_graph?_eq_some h
  exact code.flatMap_blocks

/-- The walk through the blocks meets the instructions of the code of the methods, and no others. -/
theorem mem_instructions :
    (m, i) ∈ p.instructions ↔ ∃ g, p.graph? m = some g ∧ i ∈ g.code.instructions := by
  rw [instructions, List.mem_flatMap]
  constructor
  · rintro ⟨⟨m', g⟩, hg, hmem⟩
    obtain ⟨j, hj, hpair⟩ := List.mem_map.mp hmem
    obtain ⟨rfl, rfl⟩ := Prod.mk.inj hpair
    have hgraph := mem_graphList.mp hg
    rw [flatMap_blocks_of_graph?_eq_some hgraph] at hj
    exact ⟨g, hgraph, hj⟩
  · rintro ⟨g, hgraph, hi⟩
    refine ⟨(m, g), mem_graphList.mpr hgraph, List.mem_map_of_mem ?_⟩
    rw [flatMap_blocks_of_graph?_eq_some hgraph]
    exact hi

/-- The instructions of the walk that perform an operation. -/
theorem performs_iff :
    p.Performs m s op ↔ ∃ i, (m, i) ∈ p.instructions ∧ i.addr = s ∧ i.operation = op := by
  simp only [mem_instructions]
  constructor
  · rintro ⟨g, hg, i, hi, haddr, hop⟩
    exact ⟨i, ⟨g, hg, hi⟩, haddr, hop⟩
  · rintro ⟨i, ⟨g, hg, hi⟩, haddr, hop⟩
    exact ⟨g, hg, i, hi, haddr, hop⟩

/-! ## The record of one instruction -/

theorem instructionUsage?_eq_some_iff :
    p.instructionUsage? m i = some u ↔
      ∃ used kind, i.operation.NamesClass used kind ∧ m.owner ≠ used ∧ p.Defines used ∧
        ⟨m.owner, used, m, i.addr, kind⟩ = u := by
  rw [instructionUsage?]
  constructor
  · intro h
    split at h
    next used hop =>
      rw [hop]
      exact ⟨used, _, .newInstance used, classUsage?_eq_some_iff.mp h⟩
    next used hop =>
      rw [hop]
      exact ⟨used, _, .constClass used, classUsage?_eq_some_iff.mp h⟩
    next => cases h
  · rintro ⟨used, kind, hnames, h⟩
    cases hop : i.operation <;> rw [hop] at hnames <;> cases hnames
    · exact classUsage?_eq_some_iff.mpr h
    · exact classUsage?_eq_some_iff.mpr h

/-- The class filed under the owner of a field declares a field of its name. -/
def DeclaresField (p : Program) (f : FieldRef) : Prop :=
  ∃ c, p.getClass? f.owner = some c ∧ ∃ d ∈ c.fields, d.name = f.name

theorem findField?_isSome_iff : (p.findField? f).isSome = true ↔ p.DeclaresField f := by
  have hfind : p.findField? f = (p.getClass? f.owner).bind (·.findField? f.name) := rfl
  rw [hfind, DeclaresField]
  cases p.getClass? f.owner with
  | none => simp
  | some c => simp [ClassDef.findField?]

theorem namedField?_eq_read_iff : namedField? i = some (f, .read) ↔ i.operation = .fieldGet f := by
  rw [namedField?]
  cases i.operation <;> simp

theorem namedField?_eq_write_iff :
    namedField? i = some (f, .write) ↔ i.operation = .fieldPut f := by
  rw [namedField?]
  cases i.operation <;> simp

theorem instructionAccess?_eq_some_iff :
    p.instructionAccess? m i = some a ↔
      ∃ f mode, namedField? i = some (f, mode) ∧ p.DeclaresField f ∧
        ⟨m, i.addr, f, mode⟩ = a := by
  rw [instructionAccess?]
  cases namedField? i with
  | none => simp
  | some x => simp [← findField?_isSome_iff, Prod.ext_iff]

theorem loadedString?_eq_some_iff :
    loadedString? i = some v ↔ i.operation = .constString v := by
  rw [loadedString?]
  cases i.operation <;> simp

/-- The methods that load a string and that string, in the order of the instructions. -/
def loads (p : Program) : List (MethodRef × String) :=
  p.instructions.filterMap fun x => (loadedString? x.2).map (x.1, ·)

theorem mem_loads : (m, v) ∈ p.loads ↔ ∃ s, p.Performs m s (.constString v) := by
  rw [loads, List.mem_filterMap]
  constructor
  · rintro ⟨⟨m', i⟩, hmem, hload⟩
    obtain ⟨value, hvalue, hpair⟩ := Option.map_eq_some_iff.mp hload
    obtain ⟨rfl, rfl⟩ := Prod.mk.inj hpair
    exact ⟨i.addr, performs_iff.mpr ⟨i, hmem, rfl, loadedString?_eq_some_iff.mp hvalue⟩⟩
  · rintro ⟨s, h⟩
    obtain ⟨i, hmem, -, hop⟩ := performs_iff.mp h
    refine ⟨(m, i), hmem, ?_⟩
    rw [loadedString?_eq_some_iff.mpr hop, Option.map_some]

end Program

/-! ## The users of a string -/

namespace XrefIndex

variable {p : Program} {g : CallGraph} {m : MethodRef} {v : String} {s : Offset} {f : FieldRef}
  {strings : Std.ExtTreeMap String (Std.ExtTreeSet MethodRef)}

/-- A method is recorded as a user of a string. -/
def ListsUser (x : XrefIndex) (v : String) (m : MethodRef) : Prop :=
  ∃ users, x.stringUsers? v = some users ∧ m ∈ users

/-- Instructions that load no string leave the table of strings as it is. -/
theorem strings_build (p : Program) (g : CallGraph) :
    (build p g).strings = p.loads.foldl (fun strings x => addString strings x.1 x.2) ∅ := by
  rw [Program.loads, List.foldl_filterMap]
  show p.instructions.foldl _ _ = _
  congr 1
  funext strings x
  obtain ⟨m, i⟩ := x
  dsimp only
  cases Program.loadedString? i <;> rfl

theorem getD_strings_build (p : Program) (g : CallGraph) (v : String) :
    (build p g).strings.getD v ∅ =
      (p.loads.filter (·.2 = v)).foldl (fun users x => users.insert x.1) ∅ := by
  have hfold := getD_foldl_insert_getD (fun x : MethodRef × String => x.2)
    (fun users x => users.insert x.1) (∅ : Std.ExtTreeSet MethodRef) p.loads ∅ v
  rw [Std.ExtTreeMap.getD_empty] at hfold
  rw [strings_build]
  exact hfold

theorem mem_foldl_addString (loads : List (MethodRef × String)) :
    v ∈ loads.foldl (fun strings x => addString strings x.1 x.2) strings ↔
      v ∈ strings ∨ ∃ x ∈ loads, x.2 = v := by
  induction loads generalizing strings with
  | nil => simp
  | cons x loads ih =>
    rw [List.foldl_cons, ih, addString, Std.ExtTreeMap.mem_insert,
      Std.LawfulEqOrd.compare_eq_iff_eq, List.exists_mem_cons_iff]
    tauto

theorem listsUser_build :
    (build p g).ListsUser v m ↔ ∃ s, p.Performs m s (.constString v) := by
  have hlists : (build p g).ListsUser v m ↔ m ∈ (build p g).strings.getD v ∅ := by
    rw [ListsUser, stringUsers?, Std.ExtTreeMap.getD_eq_getD_getElem?]
    cases (build p g).strings[v]? <;> simp
  rw [hlists, getD_strings_build, mem_foldl_insert, ← Program.mem_loads]
  simp

theorem isSome_stringUsers?_build :
    ((build p g).stringUsers? v).isSome = true ↔ ∃ m s, p.Performs m s (.constString v) := by
  rw [stringUsers?, ← Std.ExtTreeMap.mem_iff_isSome_getElem?, strings_build, mem_foldl_addString]
  simp only [← Program.mem_loads]
  simp

/-! ## The index of a program -/

/-- Class uses other than calls are those of the instructions. -/
theorem mem_usages_build_of_ne_call {used : String} {kind : UsageKind} (hkind : kind ≠ .call) :
    ⟨m.owner, used, m, s, kind⟩ ∈ (build p g).usages ↔
      (∃ i, (m, i) ∈ p.instructions ∧ i.addr = s ∧ i.operation.NamesClass used kind) ∧
        used ≠ m.owner ∧ p.Defines used := by
  rw [mem_usages_build]
  constructor
  · rintro (⟨m', i, hmem, h⟩ | ⟨c, -, h⟩)
    · obtain ⟨used', kind', hnames, hne, hdefines, heq⟩ :=
        Program.instructionUsage?_eq_some_iff.mp h
      obtain ⟨-, rfl, rfl, rfl, rfl⟩ := ClassUsage.mk.inj heq
      exact ⟨⟨i, hmem, rfl, hnames⟩, hne.symm, hdefines⟩
    · obtain ⟨-, -, -, heq⟩ := Program.callUsage?_eq_some_iff.mp h
      exact absurd (ClassUsage.mk.inj heq).2.2.2.2.symm hkind
  · rintro ⟨⟨i, hmem, rfl, hnames⟩, hne, hdefines⟩
    refine .inl ⟨m, i, hmem, Program.instructionUsage?_eq_some_iff.mpr ?_⟩
    exact ⟨used, kind, hnames, hne.symm, hdefines, rfl⟩

/-- The user of a class is the class of the method that holds the instruction. -/
theorem user_of_mem_usages_build {u : ClassUsage} (h : u ∈ (build p g).usages) :
    u.user = u.method.owner := by
  rcases mem_usages_build.mp h with ⟨m, i, -, h⟩ | ⟨c, -, h⟩
  · obtain ⟨_, _, -, -, -, rfl⟩ := Program.instructionUsage?_eq_some_iff.mp h
    rfl
  · obtain ⟨-, -, -, rfl⟩ := Program.callUsage?_eq_some_iff.mp h
    rfl

theorem mem_accesses_build {mode : AccessMode} :
    ⟨m, s, f, mode⟩ ∈ (build p g).accesses ↔
      (∃ i, (m, i) ∈ p.instructions ∧ i.addr = s ∧ Program.namedField? i = some (f, mode)) ∧
        p.DeclaresField f := by
  rw [build, Search.mem_ofList, List.mem_filterMap]
  constructor
  · rintro ⟨⟨m', i⟩, hmem, h⟩
    obtain ⟨f', mode', hnames, hdeclares, heq⟩ := Program.instructionAccess?_eq_some_iff.mp h
    obtain ⟨rfl, rfl, rfl, rfl⟩ := FieldAccess.mk.inj heq
    exact ⟨⟨i, hmem, rfl, hnames⟩, hdeclares⟩
  · rintro ⟨⟨i, hmem, rfl, hnames⟩, hdeclares⟩
    refine ⟨(m, i), hmem, Program.instructionAccess?_eq_some_iff.mpr ?_⟩
    exact ⟨f, mode, hnames, hdeclares, rfl⟩

/-- **The records of an index are those of the code**, wherever it is cut into blocks. A method uses
another class at an offset if its code creates an instance or loads the literal of it there, and the
class is defined; it accesses a field if its code reads or writes it there, and the class of the
field declares it; and it is a user of the strings that its code loads. -/
theorem records_of_code (p : Program) (g : CallGraph) :
    (∀ m used s,
      (⟨m.owner, used, m, s, .instantiation⟩ ∈ (build p g).usages ↔
        p.Performs m s (.newInstance used) ∧ used ≠ m.owner ∧ p.Defines used) ∧
      (⟨m.owner, used, m, s, .typeUsage⟩ ∈ (build p g).usages ↔
        p.Performs m s (.constClass used) ∧ used ≠ m.owner ∧ p.Defines used)) ∧
    (∀ u ∈ (build p g).usages, u.user = u.method.owner) ∧
    (∀ m f s,
      (⟨m, s, f, .read⟩ ∈ (build p g).accesses ↔
        p.Performs m s (.fieldGet f) ∧ p.DeclaresField f) ∧
      (⟨m, s, f, .write⟩ ∈ (build p g).accesses ↔
        p.Performs m s (.fieldPut f) ∧ p.DeclaresField f)) ∧
    ∀ v,
      (∀ m, (build p g).ListsUser v m ↔ ∃ s, p.Performs m s (.constString v)) ∧
      (((build p g).stringUsers? v).isSome = true ↔ ∃ m s, p.Performs m s (.constString v)) := by
  refine ⟨fun m used s => ⟨?_, ?_⟩, fun u hu => user_of_mem_usages_build hu,
    fun m f s => ⟨?_, ?_⟩, fun v => ⟨fun m => listsUser_build, isSome_stringUsers?_build⟩⟩
  · rw [mem_usages_build_of_ne_call, Program.performs_iff]
    · simp only [Operation.namesClass_instantiation]
    · exact nofun
  · rw [mem_usages_build_of_ne_call, Program.performs_iff]
    · simp only [Operation.namesClass_typeUsage]
    · exact nofun
  · rw [mem_accesses_build, Program.performs_iff]
    simp only [Program.namedField?_eq_read_iff]
  · rw [mem_accesses_build, Program.performs_iff]
    simp only [Program.namedField?_eq_write_iff]

end XrefIndex

end CallAtlas
