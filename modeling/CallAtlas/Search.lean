import Std.Data.ExtTreeSet

/-!
# Search in a finite graph

Everything that can be reached from some elements of a finite graph, nearest first, and whether one
element can be reached from others. The graph is given by the successors of each element; a bound on
the number of elements bounds the number of levels of the first search and the number of elements
that the second one looks at.

## Main definitions

* `Search.fresh`: the new elements of a list, each once
* `Search.beyond`: what a breadth-first search finds beyond its starting points
* `Search.meets`: whether a depth-first search meets its target

## Main results

* `Search.mem_fresh`: the new elements are those that were not seen before
* `Search.nodup_fresh`: no element is new twice
-/

namespace CallAtlas.Search

variable {α : Type} [Ord α] [Std.TransOrd α]

/-- The elements of a list that are not in `seen`, each once, in order of first occurrence. -/
def fresh (seen : Std.ExtTreeSet α) : List α → List α
  | [] => []
  | x :: xs => if seen.contains x then fresh seen xs else x :: fresh (seen.insert x) xs

/-- The levels that follow `frontier`, at most `fuel` of them: each level holds the new successors
of the one before it. -/
def levels (next : α → List α) : Nat → Std.ExtTreeSet α → List α → List (List α)
  | 0, _, _ => []
  | fuel + 1, seen, frontier =>
    match fresh seen (frontier.flatMap next) with
    | [] => []
    | x :: xs => (x :: xs) :: levels next fuel (seen.insertMany (x :: xs)) (x :: xs)

/-- What can be reached from `starts`, other than `starts` themselves, nearest first, in a graph
of at most `size` elements. -/
def beyond (next : α → List α) (size : Nat) (starts : List α) : List α :=
  (levels next size (Std.ExtTreeSet.ofList starts) starts).flatten

/-- Whether `target` is a successor of one of `todo`, which is a stack, or of what can be reached
from them; at most `fuel` elements are taken from the stack. -/
def meets [DecidableEq α] (next : α → List α) (target : α) :
    Nat → Std.ExtTreeSet α → List α → Bool
  | 0, _, _ => false
  | _ + 1, _, [] => false
  | fuel + 1, seen, x :: todo =>
    if target ∈ next x then true
    else
      let new := fresh seen (next x)
      meets next target fuel (seen.insertMany new) (new.reverse ++ todo)

section Fresh

variable [Std.LawfulEqOrd α]

/-- The new elements of a list are those that were not seen before. -/
theorem mem_fresh {seen : Std.ExtTreeSet α} {xs : List α} {y : α} :
    y ∈ fresh seen xs ↔ y ∈ xs ∧ y ∉ seen := by
  induction xs generalizing seen with
  | nil => simp [fresh]
  | cons x xs ih =>
    unfold fresh
    by_cases hx : x ∈ seen
    · rw [if_pos (by simpa using hx), ih]
      constructor
      · exact fun h => ⟨List.mem_cons_of_mem _ h.1, h.2⟩
      · rintro ⟨h, hy⟩
        rcases List.mem_cons.mp h with rfl | h
        · exact absurd hx hy
        · exact ⟨h, hy⟩
    · rw [if_neg (by simpa using hx), List.mem_cons, ih, List.mem_cons, Std.ExtTreeSet.mem_insert,
        Std.LawfulEqOrd.compare_eq_iff_eq]
      constructor
      · rintro (rfl | ⟨h, hy⟩)
        · exact ⟨.inl rfl, hx⟩
        · exact ⟨.inr h, fun h' => hy (.inr h')⟩
      · rintro ⟨rfl | h, hy⟩
        · exact .inl rfl
        · by_cases hyx : x = y
          · exact .inl hyx.symm
          · exact .inr ⟨h, by simp [hyx, hy]⟩

/-- No element is new twice. -/
theorem nodup_fresh (seen : Std.ExtTreeSet α) (xs : List α) : (fresh seen xs).Nodup := by
  induction xs generalizing seen with
  | nil => simp [fresh]
  | cons x xs ih =>
    unfold fresh
    split
    · exact ih seen
    · rw [List.nodup_cons]
      exact ⟨by simp [mem_fresh], ih _⟩

end Fresh

end CallAtlas.Search
