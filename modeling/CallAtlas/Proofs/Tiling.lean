import CallAtlas.Code
import Mathlib.Data.List.Chain

/-!
# Tilings of a body

The instructions of a body are ranges of offsets that lie side by side, and so are its basic
blocks. A list of such ranges leads from the start of the first one to the end of the last one,
and every offset in between lies in exactly one of them.

## Main definitions

* `Follows xs x y`: `y` stands right after `x` in a list
* `Tiles start stop a xs z`: the ranges of `xs` lead from `a` to `z`

## Main results

* `Tiles.exists_covering`, `Tiles.eq_of_covering`: each offset lies in exactly one range
* `Tiles.find?_reverse_eq_some`: it is the last range that begins at or before the offset
* `Tiles.follows_iff`: one range follows another exactly when it begins where the other ends
* `Code.tiles_instructions`: the instructions of a body lead from its entry to its end
-/

namespace CallAtlas

/-! ## Neighbours in a list -/

section Follows

variable {α : Type} {x y : α}

/-- `y` stands right after `x`. -/
def Follows (xs : List α) (x y : α) : Prop := [x, y] <:+: xs

theorem Follows.left_mem {xs : List α} (h : Follows xs x y) : x ∈ xs :=
  h.subset List.mem_cons_self

theorem Follows.right_mem {xs : List α} (h : Follows xs x y) : y ∈ xs :=
  h.subset (List.mem_cons_of_mem _ List.mem_cons_self)

theorem Follows.rel {r : α → α → Prop} {xs : List α} (h : Follows xs x y) (hr : xs.IsChain r) :
    r x y :=
  List.isChain_pair.mp <| List.IsChain.infix hr h

@[simp] theorem not_follows_nil : ¬ Follows [] x y := by
  simp [Follows]

theorem follows_cons {a : α} {xs : List α} :
    Follows (a :: xs) x y ↔ (x = a ∧ xs.head? = some y) ∨ Follows xs x y := by
  unfold Follows
  rw [List.infix_cons_iff, List.cons_prefix_cons,
    List.singleton_prefix_iff_head?_eq_some]

theorem follows_append {xs ys : List α} :
    Follows (xs ++ ys) x y ↔
      Follows xs x y ∨ Follows ys x y ∨ (xs.getLast? = some x ∧ ys.head? = some y) := by
  induction xs with
  | nil => simp
  | cons a xs ih =>
    rw [List.cons_append, follows_cons, ih, follows_cons]
    cases xs with
    | nil => simp [and_comm, or_comm, eq_comm]
    | cons b xs => simp [List.getLast?_cons_cons, or_assoc]

/-- Every element but the last one is followed by another one. -/
theorem getLast?_eq_some_or_exists_follows {xs : List α} (hx : x ∈ xs) :
    xs.getLast? = some x ∨ ∃ y, Follows xs x y := by
  induction xs with
  | nil => cases hx
  | cons a xs ih =>
    rcases List.mem_cons.mp hx with rfl | hx
    · cases xs with
      | nil => exact .inl rfl
      | cons b xs => exact .inr ⟨b, follows_cons.mpr (.inl ⟨rfl, rfl⟩)⟩
    · rcases ih hx with hlast | ⟨y, hy⟩
      · exact .inl (by rw [List.getLast?_cons, hlast]; rfl)
      · exact .inr ⟨y, follows_cons.mpr (.inr hy)⟩

/-- Every element but the first one follows another one. -/
theorem head?_eq_some_or_exists_follows {xs : List α} (hy : y ∈ xs) :
    xs.head? = some y ∨ ∃ x, Follows xs x y := by
  induction xs with
  | nil => cases hy
  | cons a xs ih =>
    rcases List.mem_cons.mp hy with rfl | hy
    · exact .inl rfl
    · rcases ih hy with hhead | ⟨x, hx⟩
      · exact .inr ⟨a, follows_cons.mpr (.inl ⟨rfl, hhead⟩)⟩
      · exact .inr ⟨x, follows_cons.mpr (.inr hx)⟩

theorem follows_iff_getElem? {xs : List α} :
    Follows xs x y ↔ ∃ k, xs[k]? = some x ∧ xs[k + 1]? = some y := by
  induction xs with
  | nil => simp
  | cons a xs ih =>
    rw [follows_cons, ih]
    constructor
    · rintro (⟨rfl, hy⟩ | ⟨k, hx, hy⟩)
      · exact ⟨0, by simp, by simpa [List.head?_eq_getElem?] using hy⟩
      · exact ⟨k + 1, by simpa using hx, by simpa using hy⟩
    · rintro ⟨k, hx, hy⟩
      cases k with
      | zero => exact .inl ⟨by simpa using hx.symm, by simpa [List.head?_eq_getElem?] using hy⟩
      | succ k => exact .inr ⟨k, by simpa using hx, by simpa using hy⟩

end Follows

/-! ## Ranges side by side -/

section Tiles

variable {α : Type} {start stop : α → Offset} {a z o : Offset} {xs : List α} {x y : α}

/-- The ranges `[start x, stop x)` of a list are not empty and lead from `a` to `z`: the first one
begins at `a`, each of the others where the one before it ends, and the last one ends at `z`. -/
def Tiles (start stop : α → Offset) : Offset → List α → Offset → Prop
  | a, [], z => a = z
  | a, x :: xs, z => start x = a ∧ start x < stop x ∧ Tiles start stop (stop x) xs z

theorem tiles_append {ys : List α} :
    Tiles start stop a (xs ++ ys) z ↔
      ∃ m, Tiles start stop a xs m ∧ Tiles start stop m ys z := by
  induction xs generalizing a with
  | nil => simp [Tiles]
  | cons x xs ih =>
    simp only [List.cons_append, Tiles, ih]
    constructor
    · rintro ⟨hx, hlt, m, hxs, hys⟩
      exact ⟨m, ⟨hx, hlt, hxs⟩, hys⟩
    · rintro ⟨m, ⟨hx, hlt, hxs⟩, hys⟩
      exact ⟨hx, hlt, m, hxs, hys⟩

theorem Tiles.le (h : Tiles start stop a xs z) : a ≤ z := by
  induction xs generalizing a with
  | nil =>
    obtain rfl : a = z := h
    exact Nat.le_refl _
  | cons x xs ih =>
    obtain ⟨rfl, hlt, h⟩ := h
    have hle := ih h
    simp only [Offset.lt_def, Offset.le_def] at hlt hle ⊢
    omega

/-- Every range lies between the two ends. -/
theorem Tiles.bounds (h : Tiles start stop a xs z) (hx : x ∈ xs) :
    a ≤ start x ∧ start x < stop x ∧ stop x ≤ z := by
  induction xs generalizing a with
  | nil => cases hx
  | cons y xs ih =>
    obtain ⟨rfl, hlt, h⟩ := h
    rcases List.mem_cons.mp hx with rfl | hx
    · exact ⟨Nat.le_refl _, hlt, h.le⟩
    · obtain ⟨h₁, h₂, h₃⟩ := ih h hx
      refine ⟨?_, h₂, h₃⟩
      simp only [Offset.lt_def, Offset.le_def] at hlt h₁ ⊢
      omega

theorem Tiles.stop_getLast (h : Tiles start stop a xs z) (hx : xs.getLast? = some x) :
    stop x = z := by
  induction xs generalizing a with
  | nil => cases hx
  | cons y xs ih =>
    obtain ⟨-, -, h⟩ := h
    cases xs with
    | nil =>
      obtain rfl : y = x := by simpa using hx
      exact h
    | cons y' xs =>
      rw [List.getLast?_cons_cons] at hx
      exact ih h hx

/-- The ranges stand in order and do not overlap. -/
theorem Tiles.pairwise (h : Tiles start stop a xs z) :
    xs.Pairwise fun x y => stop x ≤ start y := by
  induction xs generalizing a with
  | nil => exact List.Pairwise.nil
  | cons x xs ih =>
    obtain ⟨-, -, h⟩ := h
    exact List.pairwise_cons.mpr ⟨fun y hy => (h.bounds hy).1, ih h⟩

/-- No two ranges begin at one offset. -/
theorem Tiles.pairwise_start_ne (h : Tiles start stop a xs z) :
    xs.Pairwise fun x y => start x ≠ start y := by
  refine h.pairwise.imp_of_mem fun {x y} hx _ hxy heq => ?_
  have hlt := (h.bounds hx).2.1
  simp only [heq, Offset.lt_def, Offset.le_def] at hlt hxy
  omega

theorem Tiles.isChain (h : Tiles start stop a xs z) :
    xs.IsChain fun x y => stop x = start y := by
  induction xs generalizing a with
  | nil => exact List.isChain_nil
  | cons x xs ih =>
    obtain ⟨-, -, h⟩ := h
    refine List.isChain_cons.mpr ⟨fun y hy => ?_, ih h⟩
    cases xs with
    | nil => cases hy
    | cons x' xs =>
      obtain rfl : x' = y := by simpa using hy
      exact h.1.symm

/-- Every offset between the two ends lies in a range. -/
theorem Tiles.exists_covering (h : Tiles start stop a xs z) (ha : a ≤ o) (hz : o < z) :
    ∃ x ∈ xs, start x ≤ o ∧ o < stop x := by
  induction xs generalizing a with
  | nil =>
    obtain rfl : a = z := h
    exact absurd hz (Nat.not_lt.mpr ha)
  | cons x xs ih =>
    obtain ⟨rfl, -, h⟩ := h
    by_cases ho : o < stop x
    · exact ⟨x, List.mem_cons_self, ha, ho⟩
    · obtain ⟨y, hy, hcov⟩ := ih h (Nat.not_lt.mp ho)
      exact ⟨y, List.mem_cons_of_mem _ hy, hcov⟩

/-- No offset lies in two ranges. -/
theorem Tiles.eq_of_covering (h : Tiles start stop a xs z) (hx : x ∈ xs) (hy : y ∈ xs)
    (hxo : start x ≤ o ∧ o < stop x) (hyo : start y ≤ o ∧ o < stop y) : x = y := by
  by_contra hne
  have : Std.Symm fun x y => stop x ≤ start y ∨ stop y ≤ start x := ⟨fun _ _ => Or.symm⟩
  have hsep : xs.Pairwise fun x y => stop x ≤ start y ∨ stop y ≤ start x := h.pairwise.imp .inl
  have hapart := hsep.forall hx hy hne
  simp only [Offset.lt_def, Offset.le_def] at hxo hyo hapart
  omega

/-- The range that holds an offset is the last one that begins at or before it. -/
theorem Tiles.find?_reverse_eq_some (h : Tiles start stop a xs z) (hx : x ∈ xs)
    (hxo : start x ≤ o ∧ o < stop x) : xs.reverse.find? (start · ≤ o) = some x := by
  obtain ⟨before, after, rfl⟩ := List.append_of_mem hx
  refine List.find?_eq_some_iff_append.mpr ⟨decide_eq_true hxo.1, after.reverse, before.reverse, ?_⟩
  refine ⟨by simp, fun y hy => ?_⟩
  have hlater := (List.pairwise_append.mp h.pairwise).2.1
  have hle : stop x ≤ start y := (List.pairwise_cons.mp hlater).1 y (List.mem_reverse.mp hy)
  have hlt := hxo.2
  simp only [Offset.lt_def, Offset.le_def] at hle hlt ⊢
  simp only [Bool.not_eq_true', decide_eq_false_iff_not]
  omega

/-- Two ranges with a common start are the same. -/
theorem Tiles.eq_of_start_eq (h : Tiles start stop a xs z) (hx : x ∈ xs) (hy : y ∈ xs)
    (hxy : start x = start y) : x = y :=
  h.eq_of_covering hx hy ⟨Nat.le_refl _, (h.bounds hx).2.1⟩
    ⟨hxy ▸ Nat.le_refl _, hxy ▸ (h.bounds hy).2.1⟩

/-- One range follows another exactly when it begins where the other ends. -/
theorem Tiles.follows_iff (h : Tiles start stop a xs z) :
    Follows xs x y ↔ x ∈ xs ∧ y ∈ xs ∧ stop x = start y := by
  constructor
  · intro hf
    have hxy := hf.rel h.isChain
    exact ⟨hf.left_mem, hf.right_mem, hxy⟩
  · rintro ⟨hx, hy, hxy⟩
    induction xs generalizing a with
    | nil => cases hx
    | cons w xs ih =>
      have hbx := h.bounds hx
      obtain ⟨rfl, hlt, h⟩ := h
      rw [follows_cons]
      rcases List.mem_cons.mp hy with rfl | hys
      · simp only [Offset.lt_def, Offset.le_def, hxy] at hbx
        omega
      · rcases List.mem_cons.mp hx with rfl | hxs
        · refine .inl ⟨rfl, ?_⟩
          cases xs with
          | nil => simp at hys
          | cons v xs =>
            exact congrArg some (h.eq_of_start_eq List.mem_cons_self hys (h.1.trans hxy))
        · exact .inr (ih h hxs hys)

end Tiles

/-! ## The instructions of a body -/

namespace Code

/-- Instructions without fault lead from where they should begin to the end of the last one. -/
theorem tiles_of_instructionsFault?_eq_none {a : Offset} {is : List Instruction}
    (h : instructionsFault? a is = none) :
    Tiles Instruction.addr Instruction.next a is ((is.getLast?.map Instruction.next).getD a) := by
  induction is generalizing a with
  | nil => rfl
  | cons i is ih =>
    simp only [instructionsFault?] at h
    split at h
    · cases h
    · next haddr =>
      split at h
      · cases h
      · next hlength =>
        split at h
        · cases h
        · next b hb =>
          obtain rfl : i.addr = a := not_ne_iff.mp haddr
          obtain rfl : i.next = b := by simp [Instruction.next, Offset.advance, hb]
          refine ⟨rfl, ?_, ?_⟩
          · have hpos : 0 < i.length.toNat := UInt32.pos_iff_ne_zero.mpr hlength
            have hnext := Offset.toNat_advance? hb
            rw [Offset.lt_def]
            omega
          · have hend : ((i :: is).getLast?.map Instruction.next).getD i.addr =
                (is.getLast?.map Instruction.next).getD i.next := by
              rw [List.getLast?_cons]
              cases is.getLast? <;> rfl
            rw [hend]
            exact ih h

/-- **The instructions of a body** lead from its entry to its end. -/
theorem tiles_instructions (code : Code) :
    Tiles Instruction.addr Instruction.next .entry code.instructions code.stop := by
  have hnone : instructionsFault? .entry code.instructions = none :=
    (Option.or_eq_none_iff.mp code.sound).1
  have hstop : (code.instructions.getLast?.map Instruction.next).getD .entry = code.stop := by
    unfold stop
    cases code.instructions.getLast? <;> rfl
  exact hstop ▸ tiles_of_instructionsFault?_eq_none hnone

end Code

end CallAtlas
