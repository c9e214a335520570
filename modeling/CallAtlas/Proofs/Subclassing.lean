import CallAtlas.Proofs.Hierarchy

/-!
# The classes below and above another

What a hierarchy says about the order of classes is what the links of its image say, on cycles and
diamonds too. The classes below one are listed nearest first, and whether a class lies below another
is decided by searching upwards. Neither search comes back to the class it starts from; still, a
class that lies on a cycle of links is found to be below itself, since the second one compares a
class with its target before it asks whether the class was seen.

## Main definitions

* `Image.LinkPath`, `Image.LinkDistance`: paths of links and the length of a shortest one

## Main results

* `Hierarchy.pairwise_descendants_ofImage`: the classes below one are listed nearest first
* `Hierarchy.mem_parents_ofImage`: the classes directly above one
* `Hierarchy.isSubclassOf_ofImage`: whether a class lies below another
* `Hierarchy.queries_follow_links`: the queries on a hierarchy, by the links of its image
* `Hierarchy.isSubclassOf_self_iff`: a class lies below itself on a cycle only
-/

namespace CallAtlas

/-- A path of `n` links leads from a class up to another. -/
inductive Image.LinkPath (image : Image) : Nat → String → String → Prop
  | refl (c : String) : LinkPath image 0 c c
  | head {n : Nat} {d e c : String} :
      image.Link d e → LinkPath image n e c → LinkPath image (n + 1) d c

/-- A shortest path of links from a class up to another has `n` links. -/
def Image.LinkDistance (image : Image) (d c : String) (n : Nat) : Prop :=
  IsLeast {n | image.LinkPath n d c} n

namespace Hierarchy

variable {image : Image} {boundary : Boundary} {a c d : String} {n : Nat}

/-! ## The classes below one, nearest first -/

/-- A walk of the search for descendants is a path of links, read downwards. -/
theorem walk_subclasses_ofImage :
    Search.Walk (fun c => ((ofImage image boundary).subclasses c).toList) [c] n d ↔
      image.LinkPath n d c := by
  constructor
  · intro h
    induction h with
    | start hstart =>
      rw [List.mem_singleton.mp hstart]
      exact .refl c
    | step _ hstep ih => exact .head (step_subclasses_ofImage.mp hstep) ih
  · intro h
    induction h with
    | refl c => exact .start (List.mem_singleton_self c)
    | head hlink _ ih => exact ih.step (step_subclasses_ofImage.mpr hlink)

theorem distance_subclasses_ofImage :
    Search.Distance (fun c => ((ofImage image boundary).subclasses c).toList) [c] d n ↔
      image.LinkDistance d c n := by
  simp only [Search.Distance, walk_subclasses_ofImage, Image.LinkDistance]

/-- **The classes below one are listed nearest first.** -/
theorem pairwise_descendants_ofImage (image : Image) (boundary : Boundary) (c : String) :
    ((ofImage image boundary).descendants c).Pairwise fun d e =>
      ∃ k l, image.LinkDistance d c k ∧ image.LinkDistance e c l ∧ k ≤ l := by
  refine (Search.pairwise_beyond _ _ _).imp ?_
  rintro d e ⟨k, l, hd, he, hle⟩
  exact ⟨k, l, distance_subclasses_ofImage.mp hd, distance_subclasses_ofImage.mp he, hle⟩

theorem mem_descendants_ofImage_iff_transGen :
    d ∈ (ofImage image boundary).descendants c ↔ d ≠ c ∧ Relation.TransGen image.Link d c := by
  rw [mem_descendants_ofImage, Relation.reflTransGen_iff_eq_or_transGen]
  refine and_congr_right fun hne => ?_
  simp [hne.symm]

/-- Nothing lies below a class that is not indexed. -/
theorem descendants_eq_nil_of_contains_eq_false
    (h : (ofImage image boundary).contains c = false) :
    (ofImage image boundary).descendants c = [] := by
  rw [List.eq_nil_iff_forall_not_mem]
  intro d hd
  obtain ⟨-, hpath⟩ := mem_descendants_ofImage_iff_transGen.mp hd
  obtain ⟨e, -, hlink⟩ := Relation.TransGen.tail'_iff.mp hpath
  rw [contains, ← Bool.not_eq_true, Std.ExtTreeMap.contains_iff_mem] at h
  exact h (mem_nodes_of_link hlink).2

/-! ## The classes above one -/

/-- The classes directly above a class are those it extends or implements. -/
theorem mem_parents_ofImage : c ∈ (ofImage image boundary).parents d ↔ image.Link d c := by
  have hcollect := getD_foldl_insert_getD ClassLink.source
    (fun (above : List String) l => l.target :: above) [] image.links ∅ d
  change c ∈ (targetsBySource image.links).getD d [] ↔ _
  rw [targetsBySource, hcollect, Std.ExtTreeMap.getD_empty, List.foldl_flip_cons_eq_append,
    ← Image.exists_mem_links]
  simp [and_assoc]

/-- **A class lies below another** if one or more links lead up to it. -/
theorem isSubclassOf_ofImage :
    (ofImage image boundary).isSubclassOf d a = true ↔ Relation.TransGen image.Link d a := by
  have hstep : Search.Step (ofImage image boundary).parents = image.Link :=
    funext₂ fun _ _ => propext mem_parents_ofImage
  have hindexed : ∀ x y, Search.Step (ofImage image boundary).parents x y →
      y ∈ (ofImage image boundary).nodes.keys := by
    intro x y hxy
    exact Std.ExtTreeMap.mem_keys.mpr (mem_nodes_of_link (mem_parents_ofImage.mp hxy)).2
  have hmeets : d ∈ (ofImage image boundary).nodes →
      (Search.meets (ofImage image boundary).parents a (ofImage image boundary).nodes.size
        (Std.ExtTreeSet.ofList [d]) [d] = true ↔ Relation.TransGen image.Link d a) := by
    intro hd
    rw [Search.meets_singleton hindexed Std.ExtTreeMap.length_keys.le
      (Std.ExtTreeMap.mem_keys.mpr hd), hstep]
  simp only [isSubclassOf, contains, Bool.and_eq_true, Std.ExtTreeMap.contains_iff_mem]
  constructor
  · rintro ⟨⟨hd, -⟩, h⟩
    exact (hmeets hd).mp h
  · intro hpath
    have hd : d ∈ (ofImage image boundary).nodes := by
      obtain ⟨e, hlink, -⟩ := Relation.TransGen.head'_iff.mp hpath
      exact (mem_nodes_of_link hlink).1
    have ha : a ∈ (ofImage image boundary).nodes := by
      obtain ⟨e, -, hlink⟩ := Relation.TransGen.tail'_iff.mp hpath
      exact (mem_nodes_of_link hlink).2
    exact ⟨⟨hd, ha⟩, (hmeets hd).mpr hpath⟩

/-! ## The queries on a hierarchy -/

/-- **The queries on a hierarchy follow the links of its image.** The classes below one are listed
once each, nearest first: they are the others from which it can be reached, and there are none for a
class that is not indexed. Those directly below it are those with a link to it. A class is found to
lie below another exactly if the other can be reached from it, that is if it is listed below it. -/
theorem queries_follow_links (image : Image) (boundary : Boundary) (c : String) :
    ((ofImage image boundary).descendants c).Nodup ∧
      (∀ d, d ∈ (ofImage image boundary).descendants c ↔
        d ≠ c ∧ Relation.TransGen image.Link d c) ∧
      (((ofImage image boundary).descendants c).Pairwise fun d e =>
        ∃ k l, image.LinkDistance d c k ∧ image.LinkDistance e c l ∧ k ≤ l) ∧
      ((ofImage image boundary).contains c = false → (ofImage image boundary).descendants c = []) ∧
      (∀ d, d ∈ (ofImage image boundary).subclasses c ↔ image.Link d c) ∧
      ∀ d, d ≠ c →
        ((ofImage image boundary).isSubclassOf d c = true ↔ Relation.TransGen image.Link d c) ∧
          ((ofImage image boundary).isSubclassOf d c = true ↔
            d ∈ (ofImage image boundary).descendants c) := by
  refine ⟨nodup_descendants _ c, fun d => mem_descendants_ofImage_iff_transGen,
    pairwise_descendants_ofImage image boundary c, descendants_eq_nil_of_contains_eq_false,
    fun d => mem_subclasses_ofImage, fun d hne => ⟨isSubclassOf_ofImage, ?_⟩⟩
  rw [isSubclassOf_ofImage, mem_descendants_ofImage_iff_transGen]
  simp [hne]

/-- **A class lies below itself exactly on a cycle** of links, and is never listed among the classes
below it. -/
theorem isSubclassOf_self_iff (image : Image) (boundary : Boundary) (c : String) :
    ((ofImage image boundary).isSubclassOf c c = false ↔ ¬ Relation.TransGen image.Link c c) ∧
      c ∉ (ofImage image boundary).descendants c := by
  constructor
  · rw [← Bool.not_eq_true, isSubclassOf_ofImage]
  · intro hmem
    exact (mem_descendants_ofImage.mp hmem).1 rfl

/-- The classes `X` and `Y` extend each other, and `I` implements itself. -/
def loopingImage : Image :=
  Image.ofClasses [⟨"I", none, ["I"], [], []⟩, ⟨"X", some "Y", [], [], []⟩, ⟨"Y", some "X", [], [], []⟩]

/-- Each class of a cycle is found to be a subclass of itself. -/
theorem isSubclassOf_self_looping :
    (ofImage loopingImage .none).isSubclassOf "X" "X" = true ∧
      (ofImage loopingImage .none).descendants "X" = ["Y"] ∧
      (ofImage loopingImage .none).isSubclassOf "I" "I" = true ∧
      (ofImage loopingImage .none).descendants "I" = [] := by
  decide +kernel

end Hierarchy

end CallAtlas
