import CallAtlas.Analysis
import CallAtlas.Proofs.Filing

/-!
# When an analysis has results

An analysis is refused for its options, its registration file, its patterns, or an image without
class, and the first of these that applies is the one reported. Nothing that a class may hold stands
in its way: the parts of the image that are looked up while the program is indexed are always there.

## Main definitions

* `Options.HasTable`, `Pattern.Reads`: the registration file and the patterns can be used
* `Analysis.Accepts`, `Analysis.Refuses`: an analysis has results, or is refused for a cause
* `Image.Indexable`: what is looked up while an image is indexed is there

## Main results

* `Analysis.accepts_or_refuses`: one of the two is the case
* `Image.indexable`: every image can be indexed
* `Analysis.run_outcome`: what an analysis comes to
-/

namespace CallAtlas

/-! ## Causes of failure -/

/-- The registration file, if one is set, holds the text of a table. -/
def Options.HasTable (o : Options) (files : Files) : Prop :=
  ∀ path, o.registrationFile = some path →
    ∃ text table, files path = some (String.toUTF8 text) ∧ RegistrationTable.parse text = .ok table

/-- A source, if there is one, is that of a pattern. -/
def Pattern.Reads (source : Option String) : Prop :=
  ∀ s, source = some s → ∃ pattern, Pattern.ofString? s = some pattern

namespace Analysis

/-- Nothing stands in the way of an analysis. -/
structure Accepts (image : Image) (o : Options) (files : Files) : Prop where
  jobs : o.jobs ≠ some 0
  table : o.HasTable files
  classPattern : Pattern.Reads o.classPattern
  methodPattern : Pattern.Reads o.methodPattern
  nonempty : ∃ key c, image.getClass? key = some c

/-- An analysis is refused for a cause: none of the checks made before it has failed. -/
inductive Refuses (image : Image) (o : Options) (files : Files) : AnalysisError → Prop
  | noJobs (jobs : o.jobs = some 0) : Refuses image o files .noJobs
  /-- The file is missing, or its bytes are not those of a text. -/
  | unreadable {path : String} (jobs : o.jobs ≠ some 0) (path_eq : o.registrationFile = some path)
      (bytes : ∀ text, files path ≠ some (String.toUTF8 text)) :
      Refuses image o files (.table .unreadable)
  | malformed {path text : String} {e : RegistrationError} (jobs : o.jobs ≠ some 0)
      (path_eq : o.registrationFile = some path)
      (bytes : files path = some (String.toUTF8 text))
      (fault : RegistrationTable.parse text = .error e) :
      Refuses image o files (.table (.malformed e))
  | classPattern {source : String} (jobs : o.jobs ≠ some 0) (table : o.HasTable files)
      (source_eq : o.classPattern = some source) (fault : Pattern.ofString? source = none) :
      Refuses image o files (.pattern ⟨source⟩)
  | methodPattern {source : String} (jobs : o.jobs ≠ some 0) (table : o.HasTable files)
      (classPattern : Pattern.Reads o.classPattern) (source_eq : o.methodPattern = some source)
      (fault : Pattern.ofString? source = none) : Refuses image o files (.pattern ⟨source⟩)
  | emptyImage (jobs : o.jobs ≠ some 0) (table : o.HasTable files)
      (classPattern : Pattern.Reads o.classPattern) (methodPattern : Pattern.Reads o.methodPattern)
      (empty : ∀ key, image.getClass? key = none) : Refuses image o files .emptyImage

end Analysis

/-! ## Reading files and patterns -/

/-- The bytes that can be read as a text are those it is written in. -/
theorem fromUTF8?_eq_some_iff {bytes : ByteArray} {text : String} :
    String.fromUTF8? bytes = some text ↔ bytes = String.toUTF8 text := by
  rw [String.fromUTF8?]
  constructor
  · intro h
    split at h
    · obtain rfl := Option.some.inj h
      rfl
    · cases h
  · rintro rfl
    rw [String.toUTF8_eq_toByteArray, dif_pos text.isValidUTF8]
    rfl

namespace RegistrationTable

variable {files : Files} {path text : String}

theorem load_of_bytes (h : files path = some (String.toUTF8 text)) :
    load files path = (parse text).mapError .malformed := by
  have htext : (files path).bind String.fromUTF8? = some text := by
    rw [h, Option.bind_some, fromUTF8?_eq_some_iff]
  simp only [load, htext]
  cases parse text <;> rfl

theorem load_of_forall_bytes_ne (h : ∀ text, files path ≠ some (String.toUTF8 text)) :
    load files path = .error .unreadable := by
  have hnone : (files path).bind String.fromUTF8? = none := by
    rw [Option.bind_eq_none_iff]
    intro bytes hbytes
    cases htext : String.fromUTF8? bytes with
    | none => rfl
    | some text =>
      obtain rfl := fromUTF8?_eq_some_iff.mp htext
      exact absurd hbytes (h text)
  rw [load, hnone]

end RegistrationTable

theorem Pattern.reads_or_malformed (source : Option String) :
    Pattern.Reads source ∨ ∃ s, source = some s ∧ Pattern.ofString? s = none := by
  cases source with
  | none => exact .inl (by simp [Pattern.Reads])
  | some s =>
    cases hs : Pattern.ofString? s with
    | none => exact .inr ⟨s, rfl, hs⟩
    | some pattern => exact .inl (by simp [Pattern.Reads, hs])

namespace Options

variable {o : Options} {files : Files} {path source : String}

theorem registrations_of_path (h : o.registrationFile = some path) :
    o.registrations files = (RegistrationTable.load files path).map some := by
  rw [registrations, h]

theorem HasTable.exists_registrations (h : o.HasTable files) :
    ∃ table, o.registrations files = .ok table := by
  cases hpath : o.registrationFile with
  | none => exact ⟨none, by rw [registrations, hpath]⟩
  | some path =>
    obtain ⟨text, table, hbytes, hparse⟩ := h path hpath
    refine ⟨some table, ?_⟩
    rw [registrations_of_path hpath, RegistrationTable.load_of_bytes hbytes, hparse]
    rfl

/-- A registration file that is set holds a table, or no text, or a text that is not a table. -/
theorem hasTable_or_unusable (o : Options) (files : Files) :
    o.HasTable files ∨
      (∃ path, o.registrationFile = some path ∧
        ∀ text, files path ≠ some (String.toUTF8 text)) ∨
      ∃ path text e, o.registrationFile = some path ∧ files path = some (String.toUTF8 text) ∧
        RegistrationTable.parse text = .error e := by
  cases hpath : o.registrationFile with
  | none =>
    refine .inl ?_
    intro path h
    rw [hpath] at h
    cases h
  | some path =>
    -- the text, where there is one, is unique, so its table or fault is that of the file
    by_cases hbytes : ∃ text, files path = some (String.toUTF8 text)
    · obtain ⟨text, hbytes⟩ := hbytes
      cases hparse : RegistrationTable.parse text with
      | error e => exact .inr (.inr ⟨path, text, e, rfl, hbytes, hparse⟩)
      | ok table =>
        refine .inl ?_
        intro path' h
        obtain rfl : path = path' := Option.some.inj (hpath.symm.trans h)
        exact ⟨text, table, hbytes, hparse⟩
    · exact .inr (.inl ⟨path, rfl, not_exists.mp hbytes⟩)

theorem exists_readPattern {source : Option String} (h : Pattern.Reads source) :
    ∃ pattern, readPattern source = .ok pattern := by
  cases source with
  | none => exact ⟨none, rfl⟩
  | some s =>
    obtain ⟨pattern, hs⟩ := h s rfl
    exact ⟨some pattern, by rw [readPattern, hs]⟩

theorem readPattern_of_eq_none (h : Pattern.ofString? source = none) :
    readPattern (some source) = .error ⟨source⟩ := by
  rw [readPattern, h]

theorem exists_nodeFilter (hclass : Pattern.Reads o.classPattern)
    (hmethod : Pattern.Reads o.methodPattern) : ∃ filter, o.nodeFilter = .ok filter := by
  obtain ⟨classPattern, hc⟩ := exists_readPattern hclass
  obtain ⟨methodPattern, hm⟩ := exists_readPattern hmethod
  rw [nodeFilter, hc, hm]
  split
  · exact ⟨none, rfl⟩
  · exact ⟨some ⟨classPattern, methodPattern⟩, rfl⟩

theorem nodeFilter_of_classPattern (hsource : o.classPattern = some source)
    (h : Pattern.ofString? source = none) : o.nodeFilter = .error ⟨source⟩ := by
  rw [nodeFilter, hsource, readPattern_of_eq_none h]
  rfl

/-- The pattern for methods is read after that for classes. -/
theorem nodeFilter_of_methodPattern (hclass : Pattern.Reads o.classPattern)
    (hsource : o.methodPattern = some source) (h : Pattern.ofString? source = none) :
    o.nodeFilter = .error ⟨source⟩ := by
  obtain ⟨classPattern, hc⟩ := exists_readPattern hclass
  rw [nodeFilter, hsource, readPattern_of_eq_none h, hc, Option.isNone_some, Bool.and_false]
  rfl

end Options

/-! ## The order of the checks -/

namespace Analysis

variable {image : Image} {o : Options} {files : Files}

/-- Where nothing stands in the way of an analysis, it has results. -/
theorem Accepts.exists_run (h : Accepts image o files) : ∃ a, run image o files = .ok a := by
  obtain ⟨table, htable⟩ := h.table.exists_registrations
  obtain ⟨filter, hfilter⟩ := Options.exists_nodeFilter h.classPattern h.methodPattern
  obtain ⟨p, hp⟩ :=
    Program.exists_ofImage?_eq_some (Image.isEmpty_eq_false_iff.mpr h.nonempty) o.boundary
  refine ⟨ofProgram o p table filter, ?_⟩
  simp only [run, prepare, if_neg h.jobs, htable, hfilter, hp]

/-- An analysis that is refused for a cause reports it. -/
theorem Refuses.run_eq {e : AnalysisError} (h : Refuses image o files e) :
    run image o files = .error e := by
  cases h with
  | noJobs hjobs => rw [run, prepare, if_pos hjobs]
  | unreadable hjobs hpath hbytes =>
    have htable : o.registrations files = .error .unreadable := by
      rw [Options.registrations_of_path hpath, RegistrationTable.load_of_forall_bytes_ne hbytes]
      rfl
    simp only [run, prepare, if_neg hjobs, htable]
  | @malformed path text e hjobs hpath hbytes hfault =>
    have htable : o.registrations files = .error (.malformed e) := by
      rw [Options.registrations_of_path hpath, RegistrationTable.load_of_bytes hbytes, hfault]
      rfl
    simp only [run, prepare, if_neg hjobs, htable]
  | classPattern hjobs htable hsource hfault =>
    obtain ⟨table, htable⟩ := htable.exists_registrations
    have hfilter := Options.nodeFilter_of_classPattern hsource hfault
    simp only [run, prepare, if_neg hjobs, htable, hfilter]
  | methodPattern hjobs htable hclass hsource hfault =>
    obtain ⟨table, htable⟩ := htable.exists_registrations
    have hfilter := Options.nodeFilter_of_methodPattern hclass hsource hfault
    simp only [run, prepare, if_neg hjobs, htable, hfilter]
  | emptyImage hjobs htable hclass hmethod hempty =>
    obtain ⟨table, htable⟩ := htable.exists_registrations
    obtain ⟨filter, hfilter⟩ := Options.exists_nodeFilter hclass hmethod
    have hnone : Program.ofImage? image o.boundary = none := by
      rw [Program.ofImage?, dif_neg]
      simp [Image.isEmpty_iff.mpr hempty]
    simp only [run, prepare, if_neg hjobs, htable, hfilter, hnone]

/-- The checks leave no gap: an analysis has results, or is refused for a cause. -/
theorem accepts_or_refuses (image : Image) (o : Options) (files : Files) :
    Accepts image o files ∨ ∃ e, Refuses image o files e := by
  by_cases hjobs : o.jobs = some 0
  · exact .inr ⟨_, .noJobs hjobs⟩
  rcases o.hasTable_or_unusable files with htable | ⟨path, hpath, hbytes⟩ |
    ⟨path, text, e, hpath, hbytes, hfault⟩
  · rcases Pattern.reads_or_malformed o.classPattern with hclass | ⟨source, hsource, hfault⟩
    · rcases Pattern.reads_or_malformed o.methodPattern with hmethod | ⟨source, hsource, hfault⟩
      · cases hempty : image.isEmpty with
        | true =>
          have hnone := Image.isEmpty_iff.mp hempty
          exact .inr ⟨_, .emptyImage hjobs htable hclass hmethod hnone⟩
        | false =>
          have hsome := Image.isEmpty_eq_false_iff.mp hempty
          exact .inl ⟨hjobs, htable, hclass, hmethod, hsome⟩
      · exact .inr ⟨_, .methodPattern hjobs htable hclass hsource hfault⟩
    · exact .inr ⟨_, .classPattern hjobs htable hsource hfault⟩
  · exact .inr ⟨_, .unreadable hjobs hpath hbytes⟩
  · exact .inr ⟨_, .malformed hjobs hpath hbytes hfault⟩

theorem run_eq_error_iff {e : AnalysisError} :
    run image o files = .error e ↔ Refuses image o files e := by
  constructor
  · intro h
    rcases accepts_or_refuses image o files with hok | ⟨e', he'⟩
    · obtain ⟨a, ha⟩ := hok.exists_run
      rw [h] at ha
      cases ha
    · have hrun := he'.run_eq
      rw [h] at hrun
      cases hrun
      exact he'
  · exact Refuses.run_eq

theorem exists_run_eq_ok_iff : (∃ a, run image o files = .ok a) ↔ Accepts image o files := by
  constructor
  · rintro ⟨a, ha⟩
    rcases accepts_or_refuses image o files with hok | ⟨e, he⟩
    · exact hok
    · have hrun := he.run_eq
      rw [ha] at hrun
      cases hrun
  · exact Accepts.exists_run

end Analysis

/-! ## What is looked up while an image is indexed -/

/-- A run of instructions inside a list, given by the positions of its first instruction and of the
one after its last. -/
def Block.Slices (is : List Instruction) (first next : Nat) (b : Block) : Prop :=
  first < next ∧ next ≤ is.length ∧ b.instructions = (is.take next).drop first

/-- What is looked up while an image is indexed is there. -/
structure Image.Indexable (image : Image) (boundary : Boundary) : Prop where
  /-- A class that is linked to another one has a node before the first link is made. -/
  source_mem : ∀ l ∈ image.links, l.source ∈ Hierarchy.definedNodes image boundary
  /-- Block graphs are made of the methods that have a body. -/
  ofMethod_eq : ∀ m code, (m, code) ∈ image.bodies boundary →
    ∃ c ∈ image.applicationClasses boundary, ∃ d ∈ c.methods,
      m = c.methodRef d ∧ BlockGraph.ofMethod d = .ok (.ofCode code)
  /-- A block is cut out of a body and has a first instruction. -/
  slices : ∀ m code, (m, code) ∈ image.bodies boundary → ∀ b ∈ (BlockGraph.ofCode code).blocks,
    ∃ first next, b.Slices code.instructions first next
  /-- The region of a block is one of its graph. -/
  region : ∀ m code, (m, code) ∈ image.bodies boundary →
    ∀ b ∈ (BlockGraph.ofCode code).blocks, ∀ n, (BlockGraph.ofCode code).regionOf? b = some n →
      ∃ r, (BlockGraph.ofCode code).regions[n]? = some r ∧ r.overlaps b.start b.stop = true

theorem Hierarchy.mem_definedNodes {image : Image} {boundary : Boundary} {name : String} :
    name ∈ definedNodes image boundary ↔ ∃ c ∈ image.classList, c.name = name := by
  rw [Std.ExtTreeMap.mem_iff_isSome_getElem?, definedNodes, getElem?_foldl_insert]
  simp

/-- The instructions of some blocks fall into the slices of these. -/
theorem Block.exists_slices {bs : List Block} {b : Block} (hb : b ∈ bs) :
    ∃ first next, b.Slices (bs.flatMap Block.instructions) first next := by
  obtain ⟨before, after, rfl⟩ := List.append_of_mem hb
  have hsplit : (before ++ b :: after).flatMap instructions =
      before.flatMap instructions ++ b.instructions ++ after.flatMap instructions := by
    rw [List.flatMap_append, List.flatMap_cons, List.append_assoc]
  have hpos : 0 < b.instructions.length := Nat.succ_pos _
  refine ⟨(before.flatMap instructions).length,
    (before.flatMap instructions ++ b.instructions).length, ?_, ?_, ?_⟩
  · simpa using hpos
  · rw [hsplit]
    exact (List.prefix_append _ _).length_le
  · rw [hsplit, List.take_left, List.drop_left]

theorem Image.indexable (image : Image) (boundary : Boundary) : image.Indexable boundary where
  source_mem := by
    intro l hl
    obtain ⟨c, hc, hname, -⟩ := Image.exists_mem_links.mp ⟨l, hl, rfl, rfl⟩
    exact Hierarchy.mem_definedNodes.mpr ⟨c, hc, hname⟩
  ofMethod_eq := by
    intro m code hbody
    obtain ⟨c, hc, hbody⟩ := List.mem_flatMap.mp hbody
    obtain ⟨d, hd, hmap⟩ := List.mem_filterMap.mp hbody
    obtain ⟨_, hcode, hpair⟩ := Option.map_eq_some_iff.mp hmap
    obtain ⟨rfl, rfl⟩ := Prod.mk.inj hpair
    refine ⟨c, hc, d, hd, rfl, ?_⟩
    rw [BlockGraph.ofMethod, hcode]
  slices := by
    intro m code _ b hb
    rw [← code.flatMap_blocks]
    exact Block.exists_slices hb
  region := by
    intro m code _ b _ n hn
    obtain ⟨hlt, hoverlaps, -⟩ := List.findIdx?_eq_some_iff_getElem.mp hn
    exact ⟨_, List.getElem?_eq_getElem hlt, hoverlaps⟩

/-- **What an analysis comes to**: it is refused for the first of the known causes that applies, and
has results if none does. -/
theorem Analysis.run_outcome (image : Image) (o : Options) (files : Files) :
    (∀ e, run image o files = .error e ↔ Refuses image o files e) ∧
      ((∃ a, run image o files = .ok a) ↔ Accepts image o files) ∧
      image.Indexable o.boundary :=
  ⟨fun _ => run_eq_error_iff, exists_run_eq_ok_iff, image.indexable o.boundary⟩

end CallAtlas
