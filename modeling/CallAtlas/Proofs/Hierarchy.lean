import CallAtlas.Hierarchy
import CallAtlas.Proofs.Search

/-!
# Links between classes

The indexes of a hierarchy render the links of its image: the classes directly below one are the
sources of the links to it, the classes transitively below it are those from which it can be
reached, and the recorded superclass of a class is the target of one of its links. Climbing the
superclasses from a class that lies on the way from another one goes on the way the other does.

## Main definitions

* `Image.Link`: a class extends or implements another
* `Hierarchy.Extends`: the recorded superclass of a class is another

## Main results

* `find?_reverse_eq_some_iff`: the last element of a list with a property
* `getElem?_foldl_insert`, `getElem?_foldl_insertIfNew`, `getD_foldl_insert_getD`: looking up in a
  table filled from a list
* `Hierarchy.mem_subclasses_ofImage`, `Hierarchy.mem_descendants_ofImage`: the classes below one
* `Hierarchy.link_of_extends`: recorded superclasses are links
* `Hierarchy.mem_nodes_ofImage`, `Hierarchy.size_nodes_ofImage_le`: the classes that occur in a
  hierarchy
* `Hierarchy.climb_isPrefix_of_extends`: a climb that keeps its links goes the same way and further
* `Hierarchy.superclassChain_split`: chains that meet go on together
-/

namespace CallAtlas

/-! ## Tables filled from a list -/

/-- The last element of a list with a property. -/
theorem find?_reverse_eq_some_iff {α : Type} {p : α → Bool} {xs : List α} {x : α} :
    xs.reverse.find? p = some x ↔
      p x = true ∧ ∃ before after, xs = before ++ x :: after ∧ ∀ y ∈ after, p y = false := by
  rw [List.find?_eq_some_iff_append]
  refine and_congr_right fun _ => ?_
  constructor
  · rintro ⟨after, before, hsplit, hafter⟩
    refine ⟨before.reverse, after.reverse, ?_, ?_⟩
    · simpa using congrArg List.reverse hsplit
    · intro y hy
      simpa using hafter y (List.mem_reverse.mp hy)
  · rintro ⟨before, after, rfl, hafter⟩
    refine ⟨after.reverse, before.reverse, by simp, ?_⟩
    intro y hy
    simpa using hafter y (List.mem_reverse.mp hy)

section Table

variable {α β γ : Type} [Ord α] [Std.TransOrd α] [Std.LawfulEqOrd α] [DecidableEq α]
  {key : β → α} {val : β → γ}

/-- A table filled by replacing holds the last value of each key. -/
theorem getElem?_foldl_insert (xs : List β) (m : Std.ExtTreeMap α γ) (k : α) :
    (xs.foldl (fun m x => m.insert (key x) (val x)) m)[k]? =
      ((xs.reverse.find? (key · = k)).map val).or m[k]? := by
  induction xs generalizing m with
  | nil => simp
  | cons x xs ih =>
    rw [List.foldl_cons, ih, List.reverse_cons, List.find?_append, Std.ExtTreeMap.getElem?_insert]
    by_cases hx : key x = k
    · cases xs.reverse.find? (key · = k) <;> simp [hx]
    · cases xs.reverse.find? (key · = k) <;> simp [hx]

/-- A table filled without replacing holds the first value of each key. -/
theorem getElem?_foldl_insertIfNew (xs : List β) (m : Std.ExtTreeMap α γ) (k : α) :
    (xs.foldl (fun m x => m.insertIfNew (key x) (val x)) m)[k]? =
      m[k]?.or ((xs.find? (key · = k)).map val) := by
  induction xs generalizing m with
  | nil => simp
  | cons x xs ih =>
    rw [List.foldl_cons, ih, List.find?_cons, Std.ExtTreeMap.getElem?_insertIfNew]
    by_cases hx : key x = k
    · subst hx
      cases h : m[key x]? <;> simp [h, Std.ExtTreeMap.mem_iff_isSome_getElem?]
    · simp [hx]

/-- A table that collects values by key holds under each key what its own values come to. -/
theorem getD_foldl_insert_getD (key : β → α) (add : γ → β → γ) (start : γ) (xs : List β)
    (m : Std.ExtTreeMap α γ) (k : α) :
    (xs.foldl (fun m x => m.insert (key x) (add (m.getD (key x) start) x)) m).getD k start =
      (xs.filter (key · = k)).foldl add (m.getD k start) := by
  induction xs generalizing m with
  | nil => rfl
  | cons x xs ih =>
    rw [List.foldl_cons, ih, Std.ExtTreeMap.getD_insert, List.filter_cons]
    by_cases hx : key x = k
    · simp [hx]
    · simp [hx]

omit [DecidableEq α] in
theorem mem_foldl_insert {y : α} (xs : List β) (s : Std.ExtTreeSet α) :
    y ∈ xs.foldl (fun s x => s.insert (key x)) s ↔ y ∈ s ∨ ∃ x ∈ xs, key x = y := by
  induction xs generalizing s with
  | nil => simp
  | cons x xs ih =>
    rw [List.foldl_cons, ih, Std.ExtTreeSet.mem_insert, Std.LawfulEqOrd.compare_eq_iff_eq,
      List.exists_mem_cons_iff, ← or_assoc]
    exact or_congr_left or_comm

end Table

/-! ## Links of an image -/

/-- A class extends or implements another: some definition of the first lists the second. -/
def Image.Link (image : Image) (d c : String) : Prop :=
  ∃ cls ∈ image.classList, cls.name = d ∧ c ∈ cls.parents

instance (image : Image) (d c : String) : Decidable (image.Link d c) :=
  inferInstanceAs (Decidable (∃ cls ∈ image.classList, cls.name = d ∧ c ∈ cls.parents))

theorem ClassDef.exists_mem_links {cls : ClassDef} {d c : String} :
    (∃ l ∈ cls.links, l.source = d ∧ l.target = c) ↔ cls.name = d ∧ c ∈ cls.parents := by
  simp only [links, parents, List.mem_append, List.mem_map]
  constructor
  · rintro ⟨l, ⟨s, hs, rfl⟩ | ⟨s, hs, rfl⟩, rfl, rfl⟩
    · exact ⟨rfl, .inl hs⟩
    · exact ⟨rfl, .inr hs⟩
  · rintro ⟨rfl, hc | hc⟩
    · exact ⟨_, .inl ⟨c, hc, rfl⟩, rfl, rfl⟩
    · exact ⟨_, .inr ⟨c, hc, rfl⟩, rfl, rfl⟩

theorem Image.exists_mem_links {image : Image} {d c : String} :
    (∃ l ∈ image.links, l.source = d ∧ l.target = c) ↔ image.Link d c := by
  simp only [links, List.mem_flatMap, Link, ← ClassDef.exists_mem_links]
  constructor
  · rintro ⟨l, ⟨cls, hcls, hl⟩, hd, hc⟩
    exact ⟨cls, hcls, l, hl, hd, hc⟩
  · rintro ⟨cls, hcls, l, hl, hd, hc⟩
    exact ⟨l, ⟨cls, hcls, hl⟩, hd, hc⟩

namespace Hierarchy

variable {image : Image} {boundary : Boundary} {d c name : String} {node : ClassNode}

/-- A node describes a definition of its name, or a name that is only referred to. -/
theorem getClass?_ofImage_cases (h : (ofImage image boundary).getClass? name = some node) :
    (∃ cls ∈ image.classList, cls.name = name ∧ node = definedNode boundary cls) ∨
      node = referencedNode boundary name := by
  have hnode : (allNodes image boundary)[name]? = some node := h
  rw [allNodes, getElem?_foldl_insertIfNew, definedNodes, getElem?_foldl_insert] at hnode
  rcases Option.or_eq_some_iff.mp hnode with hdef | ⟨-, href⟩
  · simp only [Std.ExtTreeMap.getElem?_empty, Option.or_none, Option.map_eq_some_iff] at hdef
    obtain ⟨cls, hfind, rfl⟩ := hdef
    have hmem := List.mem_reverse.mp (List.mem_of_find?_eq_some hfind)
    exact .inl ⟨cls, hmem, by simpa using List.find?_some hfind, rfl⟩
  · obtain ⟨l, hfind, rfl⟩ := Option.map_eq_some_iff.mp href
    have hname : l.target = name := by simpa using List.find?_some hfind
    exact .inr (by rw [hname])

/-- A name is indexed if it is defined, or if a class extends or implements it. -/
theorem mem_nodes_ofImage :
    name ∈ (ofImage image boundary).nodes ↔
      (∃ cls ∈ image.classList, cls.name = name) ∨ ∃ d, image.Link d name := by
  change name ∈ allNodes image boundary ↔ _
  rw [Std.ExtTreeMap.mem_iff_isSome_getElem?, allNodes, getElem?_foldl_insertIfNew, definedNodes,
    getElem?_foldl_insert]
  simp only [Std.ExtTreeMap.getElem?_empty, Option.or_none, Option.isSome_or, Bool.or_eq_true,
    Option.isSome_map, List.find?_isSome, List.mem_reverse, decide_eq_true_eq,
    ← Image.exists_mem_links]
  refine or_congr_right ⟨?_, ?_⟩
  · rintro ⟨l, hl, hname⟩
    exact ⟨l.source, l, hl, rfl, hname⟩
  · rintro ⟨d, l, hl, -, hname⟩
    exact ⟨l, hl, hname⟩

/-- There are no more different names in an index than it has nodes. -/
theorem length_le_size_nodes {h : Hierarchy} {names : List String} (hnodup : names.Nodup)
    (hnames : ∀ x ∈ names, x ∈ h.nodes) : names.length ≤ h.nodes.size := by
  have hsubset : names ⊆ h.nodes.keys := by
    intro x hx
    exact Std.ExtTreeMap.mem_keys.mpr (hnames x hx)
  rw [← Std.ExtTreeMap.length_keys]
  exact (List.subperm_of_subset hnodup hsubset).length_le

/-- Where names stay defined and links remain, no fewer names are indexed. -/
theorem size_nodes_ofImage_le {image' : Image} {boundary' : Boundary}
    (hnames : ∀ cls ∈ image.classList, ∃ cls' ∈ image'.classList, cls'.name = cls.name)
    (hlinks : ∀ d c, image.Link d c → image'.Link d c) :
    (ofImage image boundary).nodes.size ≤ (ofImage image' boundary').nodes.size := by
  rw [← Std.ExtTreeMap.length_keys]
  refine length_le_size_nodes Std.ExtTreeMap.nodup_keys fun name hname => ?_
  rw [Std.ExtTreeMap.mem_keys, mem_nodes_ofImage] at hname
  rw [mem_nodes_ofImage]
  rcases hname with ⟨cls, hcls, rfl⟩ | ⟨d, hlink⟩
  · exact .inl (hnames cls hcls)
  · exact .inr ⟨d, hlinks d name hlink⟩

/-- The classes at both ends of a link are indexed. -/
theorem mem_nodes_of_link (h : image.Link d c) :
    d ∈ (ofImage image boundary).nodes ∧ c ∈ (ofImage image boundary).nodes := by
  constructor
  · obtain ⟨cls, hcls, hname, -⟩ := h
    exact mem_nodes_ofImage.mpr (.inl ⟨cls, hcls, hname⟩)
  · exact mem_nodes_ofImage.mpr (.inr ⟨d, h⟩)

/-- The classes directly below a class are those that extend or implement it. -/
theorem mem_subclasses_ofImage : d ∈ (ofImage image boundary).subclasses c ↔ image.Link d c := by
  have hcollect := getD_foldl_insert_getD ClassLink.target
    (fun (below : Std.ExtTreeSet String) l => below.insert l.source) ∅ image.links ∅ c
  change d ∈ (sourcesByTarget image.links).getD c ∅ ↔ _
  rw [sourcesByTarget, hcollect, Std.ExtTreeMap.getD_empty, mem_foldl_insert,
    ← Image.exists_mem_links]
  simp [and_assoc, and_comm]

/-- One step of the search for descendants goes down a link. -/
theorem step_subclasses_ofImage :
    Search.Step (fun c => ((ofImage image boundary).subclasses c).toList) c d ↔ image.Link d c :=
  Std.ExtTreeSet.mem_toList.trans mem_subclasses_ofImage

/-- **The classes transitively below a class** are the others from which it can be reached. -/
theorem mem_descendants_ofImage :
    d ∈ (ofImage image boundary).descendants c ↔
      d ≠ c ∧ Relation.ReflTransGen image.Link d c := by
  have hswap : Search.Step (fun c => ((ofImage image boundary).subclasses c).toList) =
      Function.swap image.Link :=
    funext₂ fun _ _ => propext step_subclasses_ofImage
  have hindexed : ∀ x y, Function.swap image.Link x y →
      y ∈ (ofImage image boundary).nodes.keys := by
    intro x y hxy
    exact Std.ExtTreeMap.mem_keys.mpr (mem_nodes_of_link hxy).1
  rw [descendants, Search.mem_beyond (hswap ▸ hindexed) Std.ExtTreeMap.length_keys.le, hswap]
  simp [Relation.reflTransGen_swap]

theorem nodup_descendants (h : Hierarchy) (name : String) : (h.descendants name).Nodup :=
  Search.nodup_beyond _ _ _

/-! ## Climbing the superclasses -/

/-- The recorded superclass of a class is another. -/
def Extends (h : Hierarchy) (d c : String) : Prop := h.superclass? d = some c

/-- Recorded superclasses are links. -/
theorem link_of_extends (h : (ofImage image boundary).Extends d c) : image.Link d c := by
  obtain ⟨node, hnode, hsuper⟩ := Option.bind_eq_some_iff.mp h
  rcases getClass?_ofImage_cases hnode with ⟨cls, hcls, hname, rfl⟩ | rfl
  · have hparent : cls.superclass = some c := hsuper
    refine ⟨cls, hcls, hname, List.mem_append_left _ ?_⟩
    rw [hparent]
    exact List.mem_singleton_self c
  · cases hsuper

variable {h : Hierarchy} {fuel : Nat} {seen : List String}

/-- A climb that goes on yields a class that was not seen, then climbs from its superclass. -/
theorem climb_succ (h : Hierarchy) (fuel : Nat) (seen : List String) (name : String) :
    h.climb (fuel + 1) seen name =
      if name ∈ seen then []
      else name :: ((h.superclass? name).map (h.climb fuel (name :: seen))).getD [] := by
  rw [climb]
  simp only [List.contains_iff_mem]
  cases h.superclass? name <;> rfl

/-- Climbing leads only to classes above. -/
theorem reflTransGen_of_mem_climb (hc : c ∈ h.climb fuel seen name) :
    Relation.ReflTransGen h.Extends name c := by
  induction fuel generalizing seen name with
  | zero => cases hc
  | succ fuel ih =>
    rw [climb_succ] at hc
    split at hc
    · cases hc
    · rcases List.mem_cons.mp hc with rfl | hc
      · exact .refl
      · cases hs : h.superclass? name with
        | none => simp [hs] at hc
        | some s => exact .head hs (ih (by simpa [hs] using hc))

theorem reflTransGen_of_mem_superclassChain (hc : c ∈ h.superclassChain name) :
    Relation.ReflTransGen h.Extends name c :=
  reflTransGen_of_mem_climb hc

/-- Climbing goes the same way, at least as far, where more superclasses are recorded and fewer
classes were seen. -/
theorem climb_isPrefix_of_extends {h' : Hierarchy} {fuel' : Nat} {seen' : List String}
    (hextends : ∀ d c, h.Extends d c → h'.Extends d c) (hseen : seen' ⊆ seen)
    (hfuel : fuel ≤ fuel') : h.climb fuel seen name <+: h'.climb fuel' seen' name := by
  induction fuel generalizing fuel' seen seen' name with
  | zero => exact List.nil_prefix
  | succ fuel ih =>
    obtain ⟨fuel', rfl⟩ : ∃ n, fuel' = n + 1 := ⟨fuel' - 1, by omega⟩
    rw [climb_succ, climb_succ]
    split
    · exact List.nil_prefix
    · next hname =>
      rw [if_neg (fun h => hname (hseen h)), List.cons_prefix_cons]
      refine ⟨rfl, ?_⟩
      cases hs : h.superclass? name with
      | none => exact List.nil_prefix
      | some s =>
        have hs' : h'.superclass? name = some s := hextends name s hs
        rw [hs', Option.map_some, Option.map_some]
        exact ih (List.cons_subset_cons name hseen) (by omega)

/-- Climbing with fewer classes seen goes the same way, at least as far. -/
theorem climb_isPrefix {fuel' : Nat} {seen' : List String} (hseen : seen' ⊆ seen)
    (hfuel : fuel ≤ fuel') : h.climb fuel seen name <+: h.climb fuel' seen' name :=
  climb_isPrefix_of_extends (fun _ _ => id) hseen hfuel

/-- Every class of a climb but the last has a recorded superclass. -/
theorem exists_extends_of_climb_eq {before after : List String}
    (hclimb : h.climb fuel seen name = before ++ c :: after) (hd : d ∈ before) :
    ∃ s, h.Extends d s := by
  induction before generalizing fuel seen name with
  | nil => cases hd
  | cons x before ih =>
    cases fuel with
    | zero => cases hclimb
    | succ fuel =>
      rw [climb_succ] at hclimb
      split at hclimb
      · cases hclimb
      · obtain ⟨rfl, hrest⟩ := List.cons.inj hclimb
        cases hs : h.superclass? name with
        | none => simp [hs] at hrest
        | some s =>
          rcases List.mem_cons.mp hd with rfl | hd
          · exact ⟨s, hs⟩
          · exact ih (by simpa [hs] using hrest) hd

/-- A climb through a class climbs from that class on; what it met before lies below. -/
theorem climb_split (hc : c ∈ h.climb fuel seen name) :
    ∃ before after, h.climb fuel seen name = before ++ c :: after ∧
      (∃ fuel' seen', fuel' ≤ fuel ∧ h.climb fuel' seen' c = c :: after) ∧
      ∀ x ∈ before, Relation.ReflTransGen h.Extends x c := by
  -- the rest of the climb is a climb again, with less fuel and more classes seen
  induction fuel generalizing seen name with
  | zero => cases hc
  | succ fuel ih =>
    have hreach := reflTransGen_of_mem_climb hc
    have hclimb := h.climb_succ fuel seen name
    by_cases hname : name ∈ seen
    · rw [climb_succ, if_pos hname] at hc
      cases hc
    · rw [if_neg hname] at hclimb
      by_cases heq : c = name
      · subst heq
        exact ⟨[], _, hclimb, ⟨fuel + 1, seen, le_rfl, hclimb⟩, by simp⟩
      · cases hs : h.superclass? name with
        | none => simp [hclimb, hs, heq] at hc
        | some s =>
          simp only [hs, Option.map_some, Option.getD_some] at hclimb
          rw [hclimb, List.mem_cons] at hc
          obtain ⟨before, after, hsplit, ⟨fuel', seen', hle, hafter⟩, hbelow⟩ :=
            ih (hc.resolve_left heq)
          refine ⟨name :: before, after, by rw [hclimb, hsplit, List.cons_append],
            ⟨fuel', seen', by omega, hafter⟩, fun x hx => ?_⟩
          rcases List.mem_cons.mp hx with rfl | hx
          · exact hreach
          · exact hbelow x hx

/-- **Chains that meet go on together**: from a class on the way of another one, its own chain goes
at least as far as the rest of that way. -/
theorem superclassChain_split (hc : c ∈ h.superclassChain name) :
    ∃ before after, h.superclassChain name = before ++ c :: after ∧
      c :: after <+: h.superclassChain c ∧
      ∀ x ∈ before, Relation.ReflTransGen h.Extends x c := by
  obtain ⟨before, after, hsplit, ⟨fuel', seen', hle, hafter⟩, hbelow⟩ := climb_split hc
  refine ⟨before, after, hsplit, ?_, hbelow⟩
  rw [← hafter]
  exact climb_isPrefix (List.nil_subset _) hle

end Hierarchy

end CallAtlas
