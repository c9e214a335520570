import CallAtlas.Json.Image
import CallAtlas.Proofs.Hierarchy
import CallAtlas.Proofs.Layout

/-!
# Images are read back as they were written

Reading undoes writing, part by part: references, operations, instructions, bodies, methods, classes
and the image itself. What can be read need not have been written, though: records may come as
arrays, and bodies may break the layout rules. A value with such a body is refused, so that the
image read from a value can be written and is then read back.

## Main definitions

* `Code.partsOfJson?`: the instructions and protected ranges that a value lists, laid out or not
* `Image.HoldsBody`: a value has the body of a method in it
* `Image.HasCode`: a body is that of a method of an image

## Main results

* `Json.record?_object`: the fields of a record are read back
* `Image.ofJson?_toJson`, and the same for every part of an image: reading undoes writing
* `Image.ofJson?_eq_none_of_not_laidOut`: a body that breaks the layout rules is refused
* `Image.exists_holdsBody`: the bodies that are read are listed in the value
* `Image.exchange_faithful`: images are exchanged faithfully
-/

namespace CallAtlas

/-! ## Lists and tables -/

section Lists

variable {α β : Type}

/-- Items that are each read back from what is written for them are read back together. -/
theorem mapM_map_eq_some {write : α → β} {read : β → Option α}
    (h : ∀ x, read (write x) = some x) (xs : List α) : (xs.map write).mapM read = some xs := by
  induction xs with
  | nil => rfl
  | cons x xs ih => simp [h x, ih]

/-- Items that are read alike are read together alike. -/
theorem mapM_congr {read read' : α → Option β} {xs : List α} (h : ∀ x ∈ xs, read x = read' x) :
    xs.mapM read = xs.mapM read' := by
  induction xs with
  | nil => rfl
  | cons x xs ih =>
    rw [List.mapM_cons, List.mapM_cons, h x List.mem_cons_self,
      ih fun y hy => h y (List.mem_cons_of_mem x hy)]

/-- Items one of which cannot be read cannot be read together. -/
theorem mapM_eq_none_of_mem {read : α → Option β} {xs : List α} {x : α} (hx : x ∈ xs)
    (h : read x = none) : xs.mapM read = none := by
  induction xs with
  | nil => cases hx
  | cons y xs ih =>
    rw [List.mapM_cons]
    rcases List.mem_cons.mp hx with rfl | hx
    · rw [h]
      rfl
    · rw [ih hx]
      cases read y <;> rfl

/-- Each of the items that have been read together has been read. -/
theorem exists_mem_of_mapM_eq_some {read : α → Option β} {xs : List α} {ys : List β} {y : β}
    (h : xs.mapM read = some ys) (hy : y ∈ ys) : ∃ x ∈ xs, read x = some y := by
  induction xs generalizing ys with
  | nil =>
    obtain rfl : [] = ys := Option.some.inj h
    cases hy
  | cons x xs ih =>
    rw [List.mapM_cons] at h
    obtain ⟨z, hz, h⟩ := Option.bind_eq_some_iff.mp h
    obtain ⟨zs, hzs, h⟩ := Option.bind_eq_some_iff.mp h
    obtain rfl : z :: zs = ys := Option.some.inj h
    rcases List.mem_cons.mp hy with rfl | hy
    · exact ⟨x, List.mem_cons_self, hz⟩
    · obtain ⟨w, hw, hread⟩ := ih hzs hy
      exact ⟨w, List.mem_cons_of_mem x hw, hread⟩

/-- A table is filled again from its entries. -/
theorem ofList_toList (m : Std.ExtTreeMap String β) : Std.ExtTreeMap.ofList m.toList = m := by
  apply Std.ExtTreeMap.ext_getElem?
  intro key
  cases hkey : m[key]? with
  | some v =>
    have hmem : (key, v) ∈ m.toList := Std.ExtTreeMap.mem_toList_iff_getElem?_eq_some.mpr hkey
    exact Std.ExtTreeMap.getElem?_ofList_of_mem Std.ReflCmp.compare_self
      Std.ExtTreeMap.distinct_keys_toList hmem
  | none =>
    have hnot : key ∉ m.keys := by
      rw [Std.ExtTreeMap.mem_keys, Std.ExtTreeMap.mem_iff_isSome_getElem?, hkey]
      simp
    apply Std.ExtTreeMap.getElem?_ofList_of_contains_eq_false
    rw [Std.ExtTreeMap.map_fst_toList_eq_keys, Bool.eq_false_iff]
    exact mt List.contains_iff_mem.mp hnot

/-- What a table is filled with comes from an entry. -/
theorem mem_of_getElem?_ofList {entries : List (String × β)} {key : String} {v : β}
    (h : (Std.ExtTreeMap.ofList entries)[key]? = some v) : (key, v) ∈ entries := by
  rw [Std.ExtTreeMap.ofList_eq_foldl, getElem?_foldl_insert, Std.ExtTreeMap.getElem?_empty,
    Option.or_none] at h
  obtain ⟨⟨key', v⟩, hfind, rfl⟩ := Option.map_eq_some_iff.mp h
  obtain rfl : key' = key := by simpa using List.find?_some hfind
  exact List.mem_reverse.mp (List.mem_of_find?_eq_some hfind)

end Lists

/-! ## Reading values back -/

namespace Json

variable {α : Type} {read : Json → Option α} {write : α → Json}

@[simp] theorem required_some (v : Json) : required read (some v) = read v := rfl

@[simp] theorem optional_some (v : Json) : optional read (some v) = v.nullable? read := rfl

@[simp] theorem string?_string (s : String) : (string s).string? = some s := rfl

@[simp] theorem word32?_natural (n : UInt32) : (natural n.toNat).word32? = some n := by
  simp [word32?, natural?, n.toNat_lt]

theorem list?_ofList (h : ∀ x, read (write x) = some x) (xs : List α) :
    (ofList write xs).list? read = some xs :=
  mapM_map_eq_some h xs

theorem nullable?_of_ne_null {v : Json} (h : v ≠ null) : v.nullable? read = (read v).map some := by
  cases v with
  | null => exact absurd rfl h
  | _ => rfl

theorem nullable?_ofOption (h : ∀ x, read (write x) = some x) (hnull : ∀ x, write x ≠ null)
    (value : Option α) : (ofOption write value).nullable? read = some value := by
  cases value with
  | none => rfl
  | some x => rw [ofOption, nullable?_of_ne_null (hnull x), h x, Option.map_some]

@[simp] theorem nullable?_ofOption_string (value : Option String) :
    (ofOption string value).nullable? string? = some value :=
  nullable?_ofOption string?_string (by simp) value

/-- A field of another name is skipped. -/
theorem slot?_cons_of_ne {name other : String} (h : other ≠ name) (value : Json)
    (fields : List (String × Json)) :
    slot? ((name, value) :: fields) other = slot? fields other := by
  rw [slot?, List.filter_cons_of_neg (by simpa using h.symm), slot?]

/-- A field is found where no other has its name. -/
theorem slot?_cons_self {name : String} {fields : List (String × Json)}
    (h : ∀ field ∈ fields, field.1 ≠ name) (value : Json) :
    slot? ((name, value) :: fields) name = some (some value) := by
  have hrest : fields.filter (fun field => field.1 == name) = [] :=
    List.filter_eq_nil_iff.mpr fun field hfield => by simpa using h field hfield
  simp [slot?, hrest]

/-- The fields of a record are read back from the object that lists them. -/
theorem record?_object {names : List String} (hnames : names.Nodup) (values : List Json)
    (hlength : values.length = names.length) :
    (object (names.zip values)).record? names = some (values.map some) := by
  rw [record?]
  induction names generalizing values with
  | nil =>
    obtain rfl := List.eq_nil_of_length_eq_zero hlength
    rfl
  | cons name names ih =>
    obtain ⟨value, values, rfl⟩ := List.exists_cons_of_length_eq_add_one hlength
    obtain ⟨hname, hnames⟩ := List.nodup_cons.mp hnames
    have hfirst : ∀ field ∈ names.zip values, field.1 ≠ name := by
      rintro field hfield rfl
      exact hname (List.of_mem_zip hfield).1
    have hskip : names.mapM (slot? ((name, value) :: names.zip values)) =
        names.mapM (slot? (names.zip values)) := by
      refine mapM_congr fun other hother => ?_
      refine slot?_cons_of_ne ?_ value _
      rintro rfl
      exact hname hother
    have hrest := ih hnames values (by simpa using hlength)
    rw [List.zip_cons_cons, List.mapM_cons, slot?_cons_self hfirst, hskip, hrest]
    rfl

/-- A field that may be missing has a value only if it is there. -/
theorem exists_of_optional_eq_some {slot : Option Json} {x : α}
    (h : optional read slot = some (some x)) : ∃ v, slot = some v ∧ read v = some x := by
  cases slot with
  | none => cases h
  | some v =>
    refine ⟨v, rfl, ?_⟩
    by_cases hnull : v = null
    · subst hnull
      cases h
    · rw [optional, nullable?_of_ne_null hnull] at h
      simpa using h

/-- A field with a list is an array. -/
theorem exists_of_required_list?_eq_some {slot : Option Json} {xs : List α}
    (h : required (list? read) slot = some xs) :
    ∃ items, slot = some (array items) ∧ items.mapM read = some xs := by
  obtain ⟨v, rfl, hv⟩ := Option.bind_eq_some_iff.mp h
  cases v with
  | array items => exact ⟨items, rfl, hv⟩
  | _ => cases hv

end Json

@[simp] theorem Offset.ofJson?_toJson (a : Offset) : Offset.ofJson? a.toJson = some a := by
  rw [ofJson?, toJson, toNat, Json.word32?_natural, Option.map_some]

@[simp] theorem MethodRef.ofJson?_toJson (m : MethodRef) : MethodRef.ofJson? m.toJson = some m := by
  have hrecord : m.toJson.record? ["class", "name", "descriptor"] = _ :=
    Json.record?_object (by simp) [.string m.owner, .string m.name, .string m.descriptor] rfl
  simp [ofJson?, hrecord]

@[simp] theorem FieldRef.ofJson?_toJson (f : FieldRef) : FieldRef.ofJson? f.toJson = some f := by
  have hrecord : f.toJson.record? ["class", "name", "type_"] = _ :=
    Json.record?_object (by simp) [.string f.owner, .string f.name, .string f.type] rfl
  simp [ofJson?, hrecord]

@[simp] theorem Operation.ofJson?_toJson (op : Operation) : Operation.ofJson? op.toJson = some op := by
  cases op with
  | goto target => simp [toJson, ofJson?, Json.variant?]
  | branch target => simp [toJson, ofJson?, Json.variant?]
  | switch targets =>
    simp [toJson, ofJson?, Json.variant?, Json.list?_ofList Offset.ofJson?_toJson]
  | invoke callee => simp [toJson, ofJson?, Json.variant?]
  | fieldGet field => simp [toJson, ofJson?, Json.variant?]
  | fieldPut field => simp [toJson, ofJson?, Json.variant?]
  | _ => rfl

theorem Instruction.ofJson?_toJson (i : Instruction) : Instruction.ofJson? i.toJson = some i := by
  have hrecord : i.toJson.record? ["addr", "length", "kind", "opcode", "operands"] = _ :=
    Json.record?_object (by simp) [i.addr.toJson, .natural i.length.toNat, i.operation.toJson,
      .string i.opcode, .string i.operands] rfl
  simp [ofJson?, hrecord]

theorem CatchClause.ofJson?_toJson (c : CatchClause) : CatchClause.ofJson? c.toJson = some c := by
  have hrecord : c.toJson.record? ["type_name", "addr"] = _ :=
    Json.record?_object (by simp) [Json.ofOption .string c.type, c.handler.toJson] rfl
  simp [ofJson?, hrecord]

theorem TryRange.ofJson?_toJson (t : TryRange) : TryRange.ofJson? t.toJson = some t := by
  have hrecord : t.toJson.record? ["start", "end", "handlers"] = _ :=
    Json.record?_object (by simp) [t.start.toJson, t.stop.toJson,
      Json.ofList CatchClause.toJson t.clauses] rfl
  simp [ofJson?, hrecord, Json.list?_ofList CatchClause.ofJson?_toJson]

/-! ## Bodies and their layout -/

namespace Code

variable {v : Json} {is : List Instruction} {ts : List TryRange} {code : Code}

/-- The instructions and protected ranges that a value lists, laid out or not. -/
def partsOfJson? (v : Json) : Option (List Instruction × List TryRange) :=
  match v.shortRecord? ["instructions", "tries"] with
  | some [instructions, tries] => do
    return (← Json.required (Json.list? Instruction.ofJson?) instructions,
      ← Json.withDefault [] (Json.list? TryRange.ofJson?) tries)
  | _ => none

/-- A body is read from what a value lists, unless that has a fault. -/
theorem ofJson?_eq_bind (v : Json) :
    Code.ofJson? v = (partsOfJson? v).bind fun parts => (ofParts parts.1 parts.2).toOption := by
  rw [ofJson?, partsOfJson?]
  generalize v.shortRecord? ["instructions", "tries"] = record
  split
  · simp [Option.bind_assoc]
  · simp

theorem partsOfJson?_toJson (code : Code) :
    partsOfJson? code.toJson = some (code.instructions, code.tries) := by
  have hrecord : code.toJson.record? ["instructions", "tries"] = _ :=
    Json.record?_object (by simp) [Json.ofList Instruction.toJson code.instructions,
      Json.ofList TryRange.toJson code.tries] rfl
  have hshort : code.toJson.shortRecord? ["instructions", "tries"] = _ := hrecord
  simp [partsOfJson?, hshort, Json.withDefault,
    Json.list?_ofList Instruction.ofJson?_toJson, Json.list?_ofList TryRange.ofJson?_toJson]

theorem ofJson?_toJson (code : Code) : Code.ofJson? code.toJson = some code := by
  have hparts : ofParts code.instructions code.tries = .ok code :=
    ofParts_eq_ok_iff.mpr ⟨rfl, rfl⟩
  rw [ofJson?_eq_bind, partsOfJson?_toJson, Option.bind_some, hparts]
  rfl

theorem partsOfJson?_of_ofJson?_eq_some (h : Code.ofJson? v = some code) :
    partsOfJson? v = some (code.instructions, code.tries) := by
  rw [ofJson?_eq_bind] at h
  obtain ⟨⟨is, ts⟩, hparts, hcode⟩ := Option.bind_eq_some_iff.mp h
  cases hok : ofParts is ts with
  | error e =>
    rw [hok] at hcode
    cases hcode
  | ok code' =>
    rw [hok] at hcode
    obtain rfl : code' = code := Option.some.inj hcode
    obtain ⟨rfl, rfl⟩ := ofParts_eq_ok_iff.mp hok
    exact hparts

/-- What breaks the layout rules is not read. -/
theorem ofJson?_eq_none_of_not_laidOut (hparts : partsOfJson? v = some (is, ts))
    (h : ¬ LaidOut is ts) : Code.ofJson? v = none := by
  rw [← fault?_eq_none_iff, ← ne_eq, Option.ne_none_iff_exists'] at h
  obtain ⟨e, he⟩ := h
  rw [ofJson?_eq_bind, hparts, Option.bind_some, ofParts_eq_error_iff.mpr he]
  rfl

end Code

/-! ## Methods, classes and images -/

theorem Method.ofJson?_toJson (m : Method) : Method.ofJson? m.toJson = some m := by
  have hrecord : m.toJson.record? ["name", "descriptor", "code"] = _ :=
    Json.record?_object (by simp) [.string m.name, .string m.descriptor,
      Json.ofOption Code.toJson m.code] rfl
  have hcode := Json.nullable?_ofOption Code.ofJson?_toJson (by simp [Code.toJson]) m.code
  simp [ofJson?, hrecord, hcode]

theorem Field.ofJson?_toJson (f : Field) : Field.ofJson? f.toJson = some f := by
  have hrecord : f.toJson.record? ["name", "type_"] = _ :=
    Json.record?_object (by simp) [.string f.name, .string f.type] rfl
  simp [ofJson?, hrecord]

theorem ClassDef.ofJson?_toJson (c : ClassDef) : ClassDef.ofJson? c.toJson = some c := by
  have hrecord :
      c.toJson.record? ["name", "superclass", "interfaces", "methods", "fields"] = _ :=
    Json.record?_object (by simp) [.string c.name, Json.ofOption .string c.superclass,
      Json.ofList .string c.interfaces, Json.ofList Method.toJson c.methods,
      Json.ofList Field.toJson c.fields] rfl
  have hinterfaces := Json.list?_ofList Json.string?_string c.interfaces
  simp [ofJson?, hrecord, hinterfaces, Json.list?_ofList Method.ofJson?_toJson,
    Json.list?_ofList Field.ofJson?_toJson]

namespace Image

/-- The classes of an object are read field by field. -/
theorem classesOfJson?_eq_map (fields : List (String × Json)) :
    classesOfJson? (.object fields) =
      (fields.mapM fun entry => (ClassDef.ofJson? entry.2).map (entry.1, ·)).map
        fun entries => Std.ExtTreeMap.ofList entries := by
  rw [Option.map_eq_bind]
  rfl

/-- Classes that are written under their keys are filed under them again. -/
theorem classesOfJson?_object (entries : List (String × ClassDef)) :
    classesOfJson? (.object (entries.map fun entry => (entry.1, entry.2.toJson))) =
      some (Std.ExtTreeMap.ofList entries) := by
  have hread : ∀ entry : String × ClassDef,
      (ClassDef.ofJson? entry.2.toJson).map (entry.1, ·) = some entry := by
    intro entry
    rw [ClassDef.ofJson?_toJson, Option.map_some]
  rw [classesOfJson?_eq_map, mapM_map_eq_some hread, Option.map_some]

/-- An image is read back as it was written. -/
theorem ofJson?_toJson (image : Image) : Image.ofJson? image.toJson = some image := by
  have hrecord : image.toJson.record? ["classes"] = _ :=
    Json.record?_object (by simp)
      [.object (image.classes.toList.map fun entry => (entry.1, entry.2.toJson))] rfl
  simp [ofJson?, hrecord, classesOfJson?_object, ofList_toList]

end Image

/-! ## Bodies inside of a value -/

/-- A value stands for a method with a body. -/
def Method.HoldsBody (v body : Json) : Prop :=
  ∃ name descriptor, v.record? ["name", "descriptor", "code"] = some [name, descriptor, some body]

/-- A value stands for a class, and one of its methods has a body. -/
def ClassDef.HoldsBody (v body : Json) : Prop :=
  ∃ name superclass interfaces methods fields,
    v.record? ["name", "superclass", "interfaces", "methods", "fields"] =
      some [name, superclass, interfaces, some (.array methods), fields] ∧
    ∃ m ∈ methods, Method.HoldsBody m body

/-- A value stands for an image, and one of the methods of its classes has a body. -/
def Image.HoldsBody (v body : Json) : Prop :=
  ∃ fields, v.record? ["classes"] = some [some (.object fields)] ∧
    ∃ field ∈ fields, ClassDef.HoldsBody field.2 body

/-- A body is that of a method of an image. -/
def Image.HasCode (image : Image) (code : Code) : Prop :=
  ∃ key c, image.getClass? key = some c ∧ ∃ m ∈ c.methods, m.code = some code

section Refused

variable {v body : Json} {is : List Instruction} {ts : List TryRange}

theorem Method.ofJson?_eq_none (h : Method.HoldsBody v body)
    (hbody : body.nullable? Code.ofJson? = none) : Method.ofJson? v = none := by
  obtain ⟨name, descriptor, hrecord⟩ := h
  simp [ofJson?, hrecord, hbody]

theorem ClassDef.ofJson?_eq_none (h : ClassDef.HoldsBody v body)
    (hbody : body.nullable? Code.ofJson? = none) : ClassDef.ofJson? v = none := by
  obtain ⟨name, superclass, interfaces, methods, fields, hrecord, m, hm, hholds⟩ := h
  have hmethods : (Json.array methods).list? Method.ofJson? = none :=
    mapM_eq_none_of_mem hm (Method.ofJson?_eq_none hholds hbody)
  simp [ofJson?, hrecord, hmethods]

namespace Image

theorem ofJson?_eq_none (h : HoldsBody v body) (hbody : body.nullable? Code.ofJson? = none) :
    Image.ofJson? v = none := by
  obtain ⟨fields, hrecord, field, hfield, hholds⟩ := h
  have hclass := ClassDef.ofJson?_eq_none hholds hbody
  have hclasses : classesOfJson? (.object fields) = none := by
    rw [classesOfJson?_eq_map, mapM_eq_none_of_mem hfield, Option.map_none]
    rw [hclass, Option.map_none]
  simp [ofJson?, hrecord, hclasses]

/-- A value with a body that breaks the layout rules is refused. -/
theorem ofJson?_eq_none_of_not_laidOut (h : HoldsBody v body)
    (hparts : Code.partsOfJson? body = some (is, ts)) (hlaid : ¬ Code.LaidOut is ts) :
    Image.ofJson? v = none := by
  -- null stands for a method without body, and lists nothing
  have hne : body ≠ .null := by
    rintro rfl
    cases hparts
  apply ofJson?_eq_none h
  rw [Json.nullable?_of_ne_null hne, Code.ofJson?_eq_none_of_not_laidOut hparts hlaid,
    Option.map_none]

end Image

end Refused

section Accepted

variable {v : Json} {code : Code}

theorem Method.exists_holdsBody {m : Method} (h : Method.ofJson? v = some m)
    (hcode : m.code = some code) :
    ∃ body, Method.HoldsBody v body ∧ Code.ofJson? body = some code := by
  rw [ofJson?] at h
  split at h
  · next name descriptor slot hrecord =>
    simp only [Option.bind_eq_bind, Option.bind_eq_some_iff, Option.pure_def,
      Option.some.injEq] at h
    obtain ⟨_, -, _, -, _, hslot, rfl⟩ := h
    obtain rfl := hcode
    obtain ⟨body, rfl, hbody⟩ := Json.exists_of_optional_eq_some hslot
    exact ⟨body, ⟨name, descriptor, hrecord⟩, hbody⟩
  · cases h

theorem ClassDef.exists_holdsBody {c : ClassDef} {m : Method} (h : ClassDef.ofJson? v = some c)
    (hm : m ∈ c.methods) (hcode : m.code = some code) :
    ∃ body, ClassDef.HoldsBody v body ∧ Code.ofJson? body = some code := by
  rw [ofJson?] at h
  split at h
  · next name superclass interfaces slot fields hrecord =>
    simp only [Option.bind_eq_bind, Option.bind_eq_some_iff, Option.pure_def,
      Option.some.injEq] at h
    obtain ⟨_, -, _, -, _, -, methods, hslot, _, -, rfl⟩ := h
    obtain ⟨items, rfl, hitems⟩ := Json.exists_of_required_list?_eq_some hslot
    obtain ⟨item, hitem, hread⟩ := exists_mem_of_mapM_eq_some hitems hm
    obtain ⟨body, hholds, hbody⟩ := Method.exists_holdsBody hread hcode
    exact ⟨body, ⟨name, superclass, interfaces, items, fields, hrecord, item, hitem, hholds⟩, hbody⟩
  · cases h

/-- The bodies of an image that has been read are listed in the value. -/
theorem Image.exists_holdsBody {image : Image} (h : Image.ofJson? v = some image)
    (hcode : image.HasCode code) :
    ∃ body, Image.HoldsBody v body ∧ Code.ofJson? body = some code := by
  obtain ⟨key, c, hc, m, hm, hcode⟩ := hcode
  rw [ofJson?] at h
  split at h
  · next slot hrecord =>
    obtain ⟨classes, hslot, rfl⟩ := Option.map_eq_some_iff.mp h
    obtain ⟨value, rfl, hvalue⟩ := Option.bind_eq_some_iff.mp hslot
    cases value with
    | object fields =>
      rw [classesOfJson?_eq_map] at hvalue
      obtain ⟨entries, hentries, rfl⟩ := Option.map_eq_some_iff.mp hvalue
      -- of several fields with one key all are read, so the one that is kept is among them
      obtain ⟨field, hfield, hread⟩ :=
        exists_mem_of_mapM_eq_some hentries (mem_of_getElem?_ofList hc)
      obtain ⟨c', hclass, hpair⟩ := Option.map_eq_some_iff.mp hread
      obtain ⟨-, rfl⟩ := Prod.mk.inj hpair
      obtain ⟨body, hholds, hbody⟩ := ClassDef.exists_holdsBody hclass hm hcode
      exact ⟨body, ⟨fields, hrecord, field, hfield, hholds⟩, hbody⟩
    | _ => cases hvalue
  · cases h

end Accepted

/-- **Images are exchanged faithfully**: an image is read back as it was written; the bodies that
are read are those that the value lists and keep the layout rules, and a value with a body that
breaks them is refused; once a value has been read, writing and reading change nothing. -/
theorem Image.exchange_faithful :
    (∀ image : Image, ofJson? image.toJson = some image) ∧
    (∀ v image, ofJson? v = some image → ∀ code, image.HasCode code →
      Code.LaidOut code.instructions code.tries ∧
        ∃ body, HoldsBody v body ∧
          Code.partsOfJson? body = some (code.instructions, code.tries)) ∧
    (∀ v body is ts, HoldsBody v body → Code.partsOfJson? body = some (is, ts) →
      ¬ Code.LaidOut is ts → ofJson? v = none) ∧
    ∀ v, (ofJson? v).bind (fun image => ofJson? image.toJson) = ofJson? v := by
  refine ⟨ofJson?_toJson, ?_, ?_, ?_⟩
  · intro v image h code hcode
    obtain ⟨body, hholds, hbody⟩ := exists_holdsBody h hcode
    exact ⟨code.laidOut, body, hholds, Code.partsOfJson?_of_ofJson?_eq_some hbody⟩
  · intro v body is ts hholds hparts hlaid
    exact ofJson?_eq_none_of_not_laidOut hholds hparts hlaid
  · intro v
    simp only [ofJson?_toJson]
    exact Option.bind_fun_some _

/-- A body whose second instruction begins inside of the first one. -/
def Code.overlapping : List Instruction := [.plain .entry 4 .other, .plain ⟨2⟩ 2 .other]

/-- A class with one method and such a body, without protected ranges. -/
def ClassDef.overlapping : Json :=
  .object [("name", .string "LMain;"), ("superclass", .null), ("interfaces", .array []),
    ("methods", .array [.object [("name", .string "run"), ("descriptor", .string "()V"),
      ("code", .object [("instructions", Json.ofList Instruction.toJson Code.overlapping)])]]),
    ("fields", .array [])]

theorem Image.exchange_faithful_overlapping :
    ofJson? (.object [("classes", .object [("LMain;", ClassDef.overlapping)])]) = none := by
  apply exchange_faithful.2.2.1 _
    (.object [("instructions", Json.ofList Instruction.toJson Code.overlapping)])
    Code.overlapping []
  · exact ⟨_, rfl, _, List.mem_cons_self, _, _, _, _, _, rfl, _, List.mem_cons_self, _, _, rfl⟩
  · have hshort : Json.shortRecord? ["instructions", "tries"]
        (.object [("instructions", Json.ofList Instruction.toJson Code.overlapping)]) =
          some [some (Json.ofList Instruction.toJson Code.overlapping), none] := rfl
    simp [Code.partsOfJson?, hshort, Json.withDefault,
      Json.list?_ofList Instruction.ofJson?_toJson]
  · intro h
    have haddr := h.instructions.addr_eq [.plain .entry 4 .other] (.plain ⟨2⟩ 2 .other) [] rfl
    cases haddr

end CallAtlas
