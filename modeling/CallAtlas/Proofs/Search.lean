import CallAtlas.Search
import Mathlib.Data.Finset.Card
import Mathlib.Logic.Relation
import Mathlib.Order.Bounds.Defs

/-!
# Search finds what can be reached

The breadth-first search lists, without repetition, everything that can be reached from its starting
points other than these points themselves, nearest first. It stops when a level is empty; since
every other level holds an element that was not seen before, a bound on the number of elements
bounds the levels. The depth-first search puts an element on its stack when it first sees it, so the
same bound holds for what it takes from the stack, and it meets its target exactly if one or more
steps lead there.

## Main definitions

* `Search.Step next x y`: `y` is a successor of `x`
* `Search.Walk next starts n y`, `Search.Distance next starts y n`: the ways to an element and the
  length of a shortest one
* `Search.AtLevel`: what a search has seen after `n` levels
* `Search.Underway`: what a depth-first search has seen and looked at

## Main results

* `Search.flatten_levels_succ`: one level of the search
* `Search.closed_levels`: nothing leads out of what the search has seen
* `Search.mem_beyond`, `Search.nodup_beyond`: what the search lists
* `Search.Underway.meets_iff`: whether the depth-first search meets its target
* `Search.AtLevel.mem_fresh`: a level holds the elements at one distance
* `Search.pairwise_beyond`: nearer elements are listed first
-/

namespace CallAtlas.Search

/-! ## Ways through a graph -/

section Walk

variable {α : Type} {next : α → List α} {starts : List α} {n : Nat} {y : α}

/-- `y` is a successor of `x`. -/
def Step (next : α → List α) (x y : α) : Prop := y ∈ next x

/-- `n` steps lead from one of `starts` to an element. -/
inductive Walk (next : α → List α) (starts : List α) : Nat → α → Prop
  | start {x : α} : x ∈ starts → Walk next starts 0 x
  | step {n : Nat} {x y : α} : Walk next starts n x → Step next x y → Walk next starts (n + 1) y

/-- A shortest way from `starts` to an element has `n` steps. -/
def Distance (next : α → List α) (starts : List α) (y : α) (n : Nat) : Prop :=
  IsLeast {n | Walk next starts n y} n

theorem walk_zero : Walk next starts 0 y ↔ y ∈ starts := by
  constructor
  · intro h
    cases h
    assumption
  · exact .start

theorem walk_succ : Walk next starts (n + 1) y ↔ ∃ x, Walk next starts n x ∧ Step next x y := by
  constructor
  · intro h
    cases h with
    | step hx hxy => exact ⟨_, hx, hxy⟩
  · rintro ⟨x, hx, hxy⟩
    exact hx.step hxy

/-- An element is one step further away if there is a way of that length and no shorter one. -/
theorem distance_succ :
    Distance next starts y (n + 1) ↔
      Walk next starts (n + 1) y ∧ ¬ ∃ m ≤ n, Walk next starts m y := by
  constructor
  · rintro ⟨hwalk, hleast⟩
    refine ⟨hwalk, ?_⟩
    rintro ⟨m, hle, hm⟩
    have := hleast hm
    omega
  · rintro ⟨hwalk, hnear⟩
    refine ⟨hwalk, fun m hm => ?_⟩
    by_contra hlt
    exact hnear ⟨m, by omega, hm⟩

end Walk

/-! ## What the search lists -/

variable {α : Type} [Ord α] [Std.TransOrd α] {next : α → List α} {seen : Std.ExtTreeSet α}
  {frontier : List α} {fuel : Nat} {x y : α}

@[simp] theorem levels_nil (next : α → List α) (fuel : Nat) (seen : Std.ExtTreeSet α) :
    levels next fuel seen [] = [] := by
  cases fuel <;> rfl

/-- A search lists the new successors of the frontier, then what it finds beyond these. -/
theorem flatten_levels_succ (next : α → List α) (fuel : Nat) (seen : Std.ExtTreeSet α)
    (frontier : List α) :
    (levels next (fuel + 1) seen frontier).flatten =
      fresh seen (frontier.flatMap next) ++
        (levels next fuel (seen.insertMany (fresh seen (frontier.flatMap next)))
          (fresh seen (frontier.flatMap next))).flatten := by
  rw [levels]
  split
  · next h => simp [h]
  · next z zs h => rw [h, List.flatten_cons]

variable [Std.LawfulEqOrd α]

theorem mem_insertMany {xs : List α} : y ∈ seen.insertMany xs ↔ y ∈ seen ∨ y ∈ xs := by
  classical
  simp [Std.ExtTreeSet.mem_insertMany_list]

theorem mem_ofList {xs : List α} : y ∈ Std.ExtTreeSet.ofList xs ↔ y ∈ xs := by
  classical
  simp [Std.ExtTreeSet.mem_ofList]

theorem mem_fresh_flatMap :
    y ∈ fresh seen (frontier.flatMap next) ↔ (∃ x ∈ frontier, Step next x y) ∧ y ∉ seen := by
  rw [mem_fresh, List.mem_flatMap]
  rfl

/-- What the search lists was not seen before and can be reached from the frontier. -/
theorem transGen_of_mem_levels (hy : y ∈ (levels next fuel seen frontier).flatten) :
    y ∉ seen ∧ ∃ x ∈ frontier, Relation.TransGen (Step next) x y := by
  induction fuel generalizing seen frontier with
  | zero => simp [levels] at hy
  | succ fuel ih =>
    rw [flatten_levels_succ] at hy
    rcases List.mem_append.mp hy with hy | hy
    · obtain ⟨⟨x, hx, hxy⟩, hnew⟩ := mem_fresh_flatMap.mp hy
      exact ⟨hnew, x, hx, .single hxy⟩
    · obtain ⟨hnew, z, hz, hzy⟩ := ih hy
      obtain ⟨⟨x, hx, hxz⟩, -⟩ := mem_fresh_flatMap.mp hz
      exact ⟨fun h => hnew (mem_insertMany.mpr (.inl h)), x, hx, .head hxz hzy⟩

/-- The search lists nothing twice. -/
theorem nodup_flatten_levels (next : α → List α) (fuel : Nat) (seen : Std.ExtTreeSet α)
    (frontier : List α) : (levels next fuel seen frontier).flatten.Nodup := by
  induction fuel generalizing seen frontier with
  | zero => exact List.nodup_nil
  | succ fuel ih =>
    rw [flatten_levels_succ, List.nodup_append']
    refine ⟨nodup_fresh _ _, ih _ _, fun y hnew hlater => ?_⟩
    exact (transGen_of_mem_levels hlater).1 (mem_insertMany.mpr (.inr hnew))

/-- Elements that are seen now are no longer to be seen. -/
theorem card_unseen_insertMany {s : Finset α} {xs : List α} (hnodup : xs.Nodup)
    (hnew : ∀ x ∈ xs, x ∈ s ∧ x ∉ seen) :
    (s.filter (· ∉ seen.insertMany xs)).card + xs.length ≤ (s.filter (· ∉ seen)).card := by
  classical
  have hdisjoint : Disjoint (s.filter (· ∉ seen.insertMany xs)) xs.toFinset := by
    rw [Finset.disjoint_left]
    intro y hy hmem
    exact (Finset.mem_filter.mp hy).2 (mem_insertMany.mpr (.inr (List.mem_toFinset.mp hmem)))
  rw [← List.toFinset_card_of_nodup hnodup, ← Finset.card_union_of_disjoint hdisjoint]
  refine Finset.card_le_card fun y hy => ?_
  rcases Finset.mem_union.mp hy with hy | hy
  · rw [Finset.mem_filter, mem_insertMany] at hy
    exact Finset.mem_filter.mpr ⟨hy.1, fun h => hy.2 (.inl h)⟩
  · exact Finset.mem_filter.mpr (hnew y (List.mem_toFinset.mp hy))

/-- **Nothing leads out of what the search has seen**, if there are no more elements to be seen
than levels, and only the frontier may lead to elements that were not seen before. -/
theorem closed_levels {s : Finset α} (hs : ∀ x y, Step next x y → y ∈ s)
    (hfuel : (s.filter (· ∉ seen)).card ≤ fuel)
    (hinner : ∀ x ∈ seen, x ∉ frontier → ∀ y, Step next x y → y ∈ seen)
    (hx : x ∈ seen ∨ x ∈ (levels next fuel seen frontier).flatten) (hxy : Step next x y) :
    y ∈ seen ∨ y ∈ (levels next fuel seen frontier).flatten := by
  induction fuel generalizing seen frontier with
  | zero =>
    have hempty : s.filter (· ∉ seen) = ∅ := Finset.card_eq_zero.mp (Nat.le_zero.mp hfuel)
    by_contra hy
    have hmem : y ∈ s.filter (· ∉ seen) :=
      Finset.mem_filter.mpr ⟨hs x y hxy, fun h => hy (.inl h)⟩
    rw [hempty] at hmem
    exact absurd hmem (Finset.notMem_empty y)
  | succ fuel ih =>
    have hstep : ∀ x ∈ seen, ∀ y, Step next x y →
        y ∈ seen ∨ y ∈ fresh seen (frontier.flatMap next) := by
      intro x hx y hxy
      by_cases hy : y ∈ seen
      · exact .inl hy
      · refine .inr (mem_fresh_flatMap.mpr ⟨⟨x, ?_, hxy⟩, hy⟩)
        by_contra hfront
        exact hy (hinner x hx hfront y hxy)
    rw [flatten_levels_succ, List.mem_append] at hx ⊢
    by_cases hnew : fresh seen (frontier.flatMap next) = []
    · simp only [hnew, levels_nil, List.flatten_nil, List.not_mem_nil, or_false] at hx hstep ⊢
      exact hstep x hx y hxy
    · have hcard := card_unseen_insertMany (nodup_fresh seen (frontier.flatMap next)) fun z hz => by
        obtain ⟨⟨w, -, hwz⟩, hzseen⟩ := mem_fresh_flatMap.mp hz
        exact ⟨hs w z hwz, hzseen⟩
      have hpos := List.length_pos_of_ne_nil hnew
      rw [← or_assoc, ← mem_insertMany] at hx ⊢
      refine ih (by omega) (fun v hv hvnew u hvu => ?_) hx
      rcases mem_insertMany.mp hv with hv | hv
      · exact mem_insertMany.mpr (hstep v hv u hvu)
      · exact absurd hv hvnew

/-- **What the search lists**: everything that can be reached from its starting points, other than
these, if there are no more successors than levels. -/
theorem mem_beyond {all starts : List α} {size : Nat} (hall : ∀ x y, Step next x y → y ∈ all)
    (hsize : all.length ≤ size) :
    y ∈ beyond next size starts ↔
      y ∉ starts ∧ ∃ x ∈ starts, Relation.ReflTransGen (Step next) x y := by
  classical
  constructor
  · intro hy
    obtain ⟨hnew, x, hx, hxy⟩ := transGen_of_mem_levels hy
    exact ⟨fun h => hnew (mem_ofList.mpr h), x, hx, hxy.to_reflTransGen⟩
  · rintro ⟨hnew, x, hx, hxy⟩
    have hs : ∀ x y, Step next x y → y ∈ all.toFinset := by
      intro x y hxy
      exact List.mem_toFinset.mpr (hall x y hxy)
    have hfuel : (all.toFinset.filter (· ∉ Std.ExtTreeSet.ofList starts)).card ≤ size :=
      (Finset.card_filter_le _ _).trans ((List.toFinset_card_le all).trans hsize)
    have hfound : y ∈ Std.ExtTreeSet.ofList starts ∨ y ∈ beyond next size starts := by
      clear hnew
      induction hxy with
      | refl => exact .inl (mem_ofList.mpr hx)
      | tail _ hstep ih =>
        exact closed_levels hs hfuel (fun z hz hfront => absurd (mem_ofList.mp hz) hfront) ih hstep
    exact hfound.resolve_left fun h => hnew (mem_ofList.mp h)

theorem nodup_beyond (next : α → List α) (size : Nat) (starts : List α) :
    (beyond next size starts).Nodup :=
  nodup_flatten_levels _ _ _ _

/-! ## Whether the search meets its target -/

section Meets

variable {target : α} {todo : List α}

/-- A search for `target` is under way: what is on the stack was seen, and all else that was seen
has been looked at without meeting the target. -/
structure Underway (next : α → List α) (target : α) (seen : Std.ExtTreeSet α) (todo : List α) :
    Prop where
  mem_seen : ∀ x ∈ todo, x ∈ seen
  looked_at : ∀ x ∈ seen, x ∉ todo → target ∉ next x ∧ ∀ y, Step next x y → y ∈ seen

/-- A search begins with its starting points on the stack. -/
theorem underway_start (starts : List α) :
    Underway next target (Std.ExtTreeSet.ofList starts) starts where
  mem_seen _ hx := mem_ofList.mpr hx
  looked_at _ hx hstack := absurd (mem_ofList.mp hx) hstack

/-- The search looks at the element on top of the stack, and puts its new successors there. -/
theorem Underway.look (h : Underway next target seen (x :: todo)) (htarget : target ∉ next x) :
    Underway next target (seen.insertMany (fresh seen (next x)))
      ((fresh seen (next x)).reverse ++ todo) where
  mem_seen y hy := by
    rcases List.mem_append.mp hy with hy | hy
    · exact mem_insertMany.mpr (.inr (List.mem_reverse.mp hy))
    · exact mem_insertMany.mpr (.inl (h.mem_seen y (List.mem_cons_of_mem x hy)))
  looked_at y hy hstack := by
    simp only [List.mem_append, List.mem_reverse, not_or] at hstack
    have hyseen : y ∈ seen := (mem_insertMany.mp hy).resolve_right hstack.1
    by_cases hyx : y = x
    · subst hyx
      refine ⟨htarget, fun z hz => ?_⟩
      by_cases hzseen : z ∈ seen
      · exact mem_insertMany.mpr (.inl hzseen)
      · exact mem_insertMany.mpr (.inr (mem_fresh.mpr ⟨hz, hzseen⟩))
    · obtain ⟨hne, hclosed⟩ := h.looked_at y hyseen (by simp [hyx, hstack.2])
      exact ⟨hne, fun z hz => mem_insertMany.mpr (.inl (hclosed z hz))⟩

omit [Std.LawfulEqOrd α] in
/-- Nothing leads to the target from what a search has seen that leaves an empty stack. -/
theorem Underway.not_transGen (h : Underway next target seen []) (hx : x ∈ seen) :
    ¬ Relation.TransGen (Step next) x target := by
  intro hpath
  induction hpath using Relation.TransGen.head_induction_on with
  | single hstep => exact (h.looked_at _ hx List.not_mem_nil).1 hstep
  | head hstep _ ih => exact ih ((h.looked_at _ hx List.not_mem_nil).2 _ hstep)

omit [Std.LawfulEqOrd α] in
@[simp] theorem meets_nil [DecidableEq α] (next : α → List α) (target : α) (fuel : Nat)
    (seen : Std.ExtTreeSet α) : meets next target fuel seen [] = false := by
  cases fuel <;> rfl

/-- **Whether the search meets its target**: exactly if one or more steps lead there from what was
seen, if it may look at as many elements as are on the stack or not seen yet. -/
theorem Underway.meets_iff [DecidableEq α] {s : Finset α} (h : Underway next target seen todo)
    (hs : ∀ x y, Step next x y → y ∈ s)
    (hfuel : todo.length + (s.filter (· ∉ seen)).card ≤ fuel) :
    meets next target fuel seen todo = true ↔
      ∃ x ∈ seen, Relation.TransGen (Step next) x target := by
  induction fuel generalizing seen todo with
  | zero =>
    obtain rfl : todo = [] := List.length_eq_zero_iff.mp (by omega)
    simpa using fun x hx => h.not_transGen hx
  | succ fuel ih =>
    cases todo with
    | nil => simpa using fun x hx => h.not_transGen hx
    | cons x todo =>
      have hx : x ∈ seen := h.mem_seen x List.mem_cons_self
      by_cases htarget : target ∈ next x
      · simp only [meets, if_pos htarget, true_iff]
        exact ⟨x, hx, .single htarget⟩
      · have hcard := card_unseen_insertMany (nodup_fresh seen (next x)) fun y hy =>
          ⟨hs x y (mem_fresh.mp hy).1, (mem_fresh.mp hy).2⟩
        have hfuel' : ((fresh seen (next x)).reverse ++ todo).length +
            (s.filter (· ∉ seen.insertMany (fresh seen (next x)))).card ≤ fuel := by
          simp only [List.length_append, List.length_reverse, List.length_cons] at hfuel ⊢
          omega
        simp only [meets, if_neg htarget]
        rw [ih (h.look htarget) hfuel']
        constructor
        · rintro ⟨y, hy, hpath⟩
          rcases mem_insertMany.mp hy with hy | hy
          · exact ⟨y, hy, hpath⟩
          · exact ⟨x, hx, .head (mem_fresh.mp hy).1 hpath⟩
        · rintro ⟨y, hy, hpath⟩
          exact ⟨y, mem_insertMany.mpr (.inl hy), hpath⟩

/-- A search from one of the elements of a graph, which may look at all of them, meets its target
exactly if one or more steps lead there. -/
theorem meets_singleton [DecidableEq α] {all : List α} {size : Nat}
    (hall : ∀ x y, Step next x y → y ∈ all) (hsize : all.length ≤ size) (hx : x ∈ all) :
    meets next target size (Std.ExtTreeSet.ofList [x]) [x] = true ↔
      Relation.TransGen (Step next) x target := by
  have hcard : (all.toFinset.filter (· ∉ Std.ExtTreeSet.ofList [x])).card < all.length := by
    refine (Finset.card_lt_card ?_).trans_le (List.toFinset_card_le all)
    exact Finset.filter_ssubset.mpr ⟨x, List.mem_toFinset.mpr hx, by simp⟩
  rw [(underway_start [x]).meets_iff (s := all.toFinset)
    (fun y z hyz => List.mem_toFinset.mpr (hall y z hyz)) (by rw [List.length_singleton]; omega)]
  simp

end Meets

/-! ## Nearest first -/

/-- After `n` levels a search has seen the elements up to distance `n`, and its frontier holds those
at distance `n`. -/
structure AtLevel (next : α → List α) (starts : List α) (n : Nat) (seen : Std.ExtTreeSet α)
    (frontier : List α) : Prop where
  mem_seen : ∀ y, y ∈ seen ↔ ∃ m ≤ n, Walk next starts m y
  mem_frontier : ∀ y, y ∈ frontier ↔ Distance next starts y n

variable {starts : List α} {n : Nat}

/-- A search begins at level zero. -/
theorem atLevel_zero : AtLevel next starts 0 (Std.ExtTreeSet.ofList starts) starts where
  mem_seen y := by
    have hstart : Walk next starts 0 y ↔ y ∈ starts := walk_zero
    rw [mem_ofList, ← hstart]
    simp
  mem_frontier y := by
    constructor
    · intro hy
      exact ⟨.start hy, fun m _ => Nat.zero_le m⟩
    · intro hy
      exact walk_zero.mp hy.1

/-- **A level holds the elements at one distance**: the new successors of the frontier are those one
step further away. -/
theorem AtLevel.mem_fresh (h : AtLevel next starts n seen frontier) :
    y ∈ fresh seen (frontier.flatMap next) ↔ Distance next starts y (n + 1) := by
  rw [mem_fresh_flatMap, h.mem_seen, distance_succ]
  refine and_congr_left fun hnear => ?_
  constructor
  · rintro ⟨x, hx, hxy⟩
    have hwalk : Walk next starts n x := ((h.mem_frontier x).mp hx).1
    exact hwalk.step hxy
  · intro hwalk
    obtain ⟨x, hx, hxy⟩ := walk_succ.mp hwalk
    refine ⟨x, (h.mem_frontier x).mpr ⟨hx, fun m hm => ?_⟩, hxy⟩
    by_contra hlt
    exact hnear ⟨m + 1, by omega, Walk.step hm hxy⟩

/-- The search goes on one level further. -/
theorem AtLevel.succ (h : AtLevel next starts n seen frontier) :
    AtLevel next starts (n + 1) (seen.insertMany (fresh seen (frontier.flatMap next)))
      (fresh seen (frontier.flatMap next)) where
  mem_seen y := by
    rw [mem_insertMany, h.mem_seen, h.mem_fresh, distance_succ]
    constructor
    · rintro (⟨m, hle, hm⟩ | ⟨hwalk, -⟩)
      · exact ⟨m, by omega, hm⟩
      · exact ⟨n + 1, le_rfl, hwalk⟩
    · rintro ⟨m, hle, hm⟩
      by_cases hnear : ∃ k ≤ n, Walk next starts k y
      · exact .inl hnear
      · obtain rfl : m = n + 1 := by
          by_contra hne
          exact hnear ⟨m, by omega, hm⟩
        exact .inr ⟨hm, hnear⟩
  mem_frontier y := h.mem_fresh

/-- What a search still lists lies further away than its frontier. -/
theorem AtLevel.exists_distance (h : AtLevel next starts n seen frontier)
    (hy : y ∈ (levels next fuel seen frontier).flatten) :
    ∃ m, n < m ∧ Distance next starts y m := by
  induction fuel generalizing n seen frontier with
  | zero => simp [levels] at hy
  | succ fuel ih =>
    rw [flatten_levels_succ] at hy
    rcases List.mem_append.mp hy with hy | hy
    · exact ⟨n + 1, Nat.lt_succ_self n, h.mem_fresh.mp hy⟩
    · obtain ⟨m, hlt, hm⟩ := ih h.succ hy
      exact ⟨m, by omega, hm⟩

theorem AtLevel.pairwise_levels (h : AtLevel next starts n seen frontier) :
    (levels next fuel seen frontier).flatten.Pairwise fun y z =>
      ∃ k l, Distance next starts y k ∧ Distance next starts z l ∧ k ≤ l := by
  induction fuel generalizing n seen frontier with
  | zero => exact List.Pairwise.nil
  | succ fuel ih =>
    rw [flatten_levels_succ, List.pairwise_append]
    refine ⟨List.pairwise_of_forall_mem_list ?_, ih h.succ, ?_⟩
    · intro y hy z hz
      exact ⟨n + 1, n + 1, h.mem_fresh.mp hy, h.mem_fresh.mp hz, le_rfl⟩
    · intro y hy z hz
      obtain ⟨l, hlt, hl⟩ := h.succ.exists_distance hz
      exact ⟨n + 1, l, h.mem_fresh.mp hy, hl, hlt.le⟩

/-- **Nearest first**: the distances of what the search lists do not decrease. -/
theorem pairwise_beyond (next : α → List α) (size : Nat) (starts : List α) :
    (beyond next size starts).Pairwise fun y z =>
      ∃ k l, Distance next starts y k ∧ Distance next starts z l ∧ k ≤ l :=
  atLevel_zero.pairwise_levels

end CallAtlas.Search
