/-!
# Sets of characters

A set of characters is kept as the ranges of its code points, in ascending order and apart from
each other, so that equal sets are equal values. Sets are closed under union, intersection and
complement.

## Main definitions

* `CharSet`, `CharSet.contains`: sets and membership
* `CharSet.ofRanges`, `CharSet.ofRuns`: the sets of the code points in some ranges or runs
* `CharSet.union`, `CharSet.compl`, `CharSet.inter`, `CharSet.diff`, `CharSet.symmDiff`
* `CharSet.negation`: the set that a negated class of characters stands for
* `CharSet.ofName?`: the named sets of ASCII characters

## Main results

* `CharSet.mem_ofRanges`: the set of some ranges has the code points of each
* `CharSet.mem_union`, `CharSet.mem_inter`, `CharSet.mem_compl`: the code points of unions,
  intersections and complements
-/

namespace CallAtlas

/-- A set of code points, as ranges with both ends included. -/
structure CharSet where
  ranges : List (Nat × Nat)
  /-- The ranges are in ascending order, and no two of them touch. -/
  apart : ranges.Pairwise fun r s => r.2 + 1 < s.1
  /-- No range is empty. -/
  valid : ∀ r ∈ ranges, r.1 ≤ r.2
deriving DecidableEq

namespace CharSet

/-- Whether a code point is in one of some ranges. -/
def Within (ranges : List (Nat × Nat)) (n : Nat) : Prop := ∃ r ∈ ranges, r.1 ≤ n ∧ n ≤ r.2

/-- The set without characters. -/
def empty : CharSet := ⟨[], .nil, by simp⟩

instance : Inhabited CharSet := ⟨empty⟩

/-- Adds a range to ranges in ascending order, merging the ones that it touches. -/
def insertRange (r : Nat × Nat) : List (Nat × Nat) → List (Nat × Nat)
  | [] => [r]
  | s :: rest =>
    if r.2 + 1 < s.1 then r :: s :: rest
    else if s.2 + 1 < r.1 then s :: insertRange r rest
    else insertRange (min r.1 s.1, max r.2 s.2) rest

theorem insertRange_valid {r : Nat × Nat} {l : List (Nat × Nat)} (hr : r.1 ≤ r.2)
    (hl : ∀ s ∈ l, s.1 ≤ s.2) : ∀ s ∈ insertRange r l, s.1 ≤ s.2 := by
  induction l generalizing r with
  | nil => simpa [insertRange] using hr
  | cons s rest ih =>
    have hs : s.1 ≤ s.2 := hl s (by simp)
    have hrest : ∀ t ∈ rest, t.1 ≤ t.2 := fun t ht => hl t (by simp [ht])
    unfold insertRange
    split
    · simpa using ⟨hr, hs, fun a b h => hrest (a, b) h⟩
    · split
      · intro t ht
        rcases List.mem_cons.1 ht with rfl | ht
        · exact hs
        · exact ih hr hrest t ht
      · exact ih (by simp only; omega) hrest

theorem lt_of_mem_insertRange {r : Nat × Nat} {l : List (Nat × Nat)} {n : Nat} (hr : n < r.1)
    (hl : ∀ s ∈ l, n < s.1) : ∀ s ∈ insertRange r l, n < s.1 := by
  induction l generalizing r with
  | nil => simpa [insertRange] using hr
  | cons s rest ih =>
    have hs : n < s.1 := hl s (by simp)
    have hrest : ∀ t ∈ rest, n < t.1 := fun t ht => hl t (by simp [ht])
    unfold insertRange
    split
    · simpa using ⟨hr, hs, fun a b h => hrest (a, b) h⟩
    · split
      · intro t ht
        rcases List.mem_cons.1 ht with rfl | ht
        · exact hs
        · exact ih hr hrest t ht
      · exact ih (by simp only; omega) hrest

theorem insertRange_apart {r : Nat × Nat} {l : List (Nat × Nat)}
    (hl : l.Pairwise fun s t => s.2 + 1 < t.1) (hv : ∀ s ∈ l, s.1 ≤ s.2) :
    (insertRange r l).Pairwise fun s t => s.2 + 1 < t.1 := by
  induction l generalizing r with
  | nil => simp [insertRange]
  | cons s rest ih =>
    have hs : s.1 ≤ s.2 := hv s (by simp)
    have hrest : ∀ t ∈ rest, t.1 ≤ t.2 := fun t ht => hv t (by simp [ht])
    obtain ⟨hgap, hpair⟩ := List.pairwise_cons.1 hl
    unfold insertRange
    split
    · refine List.pairwise_cons.2 ⟨fun t ht => ?_, hl⟩
      rcases List.mem_cons.1 ht with rfl | ht
      · assumption
      · have := hgap t ht
        omega
    · split
      · exact List.pairwise_cons.2 ⟨lt_of_mem_insertRange ‹_› hgap, ih hpair hrest⟩
      · exact ih hpair hrest

theorem within_insertRange {r : Nat × Nat} {l : List (Nat × Nat)} (hr : r.1 ≤ r.2)
    (hl : ∀ s ∈ l, s.1 ≤ s.2) (n : Nat) :
    Within (insertRange r l) n ↔ (r.1 ≤ n ∧ n ≤ r.2) ∨ Within l n := by
  induction l generalizing r with
  | nil => simp [insertRange, Within]
  | cons s rest ih =>
    have hs : s.1 ≤ s.2 := hl s (by simp)
    have hrest : ∀ t ∈ rest, t.1 ≤ t.2 := fun t ht => hl t (by simp [ht])
    have cons (t : Nat × Nat) (l : List (Nat × Nat)) :
        Within (t :: l) n ↔ (t.1 ≤ n ∧ n ≤ t.2) ∨ Within l n := by simp [Within]
    unfold insertRange
    split
    · simp only [cons]
    · split
      · rw [cons, cons, ih hr hrest]
        exact ⟨fun h => by rcases h with h | h | h <;> simp [h],
          fun h => by rcases h with h | h | h <;> simp [h]⟩
      · rw [cons, ih (by simp only; omega) hrest]
        simp only
        constructor
        · rintro (h | h)
          · by_cases hn : r.1 ≤ n ∧ n ≤ r.2
            · exact .inl hn
            · exact .inr (.inl (by omega))
          · exact .inr (.inr h)
        · rintro (h | h | h)
          · exact .inl (by omega)
          · exact .inl (by omega)
          · exact .inr h

/-- Adds the code points of a range. -/
def insert (r : Nat × Nat) (s : CharSet) : CharSet :=
  if h : r.1 ≤ r.2 then
    ⟨insertRange r s.ranges, insertRange_apart s.apart s.valid, insertRange_valid h s.valid⟩
  else s

/-- The set of the code points in some ranges. -/
def ofRanges (ranges : List (Nat × Nat)) : CharSet := ranges.foldr insert empty

/-- The code points of two sets. -/
def union (a b : CharSet) : CharSet := a.ranges.foldr insert b

/-- Whether a code point is in a set. -/
instance : Membership Nat CharSet := ⟨fun s n => Within s.ranges n⟩

theorem mem_iff {n : Nat} {s : CharSet} : n ∈ s ↔ ∃ r ∈ s.ranges, r.1 ≤ n ∧ n ≤ r.2 := Iff.rfl

@[simp] theorem not_mem_empty (n : Nat) : ¬ n ∈ empty := by simp [mem_iff, empty]

@[simp] theorem mem_insert {r : Nat × Nat} {s : CharSet} {n : Nat} :
    n ∈ insert r s ↔ (r.1 ≤ n ∧ n ≤ r.2) ∨ n ∈ s := by
  unfold insert
  split
  · exact within_insertRange ‹_› s.valid n
  · exact ⟨.inr, fun h => h.resolve_left (by omega)⟩

theorem mem_foldr_insert {ranges : List (Nat × Nat)} {s : CharSet} {n : Nat} :
    n ∈ ranges.foldr insert s ↔ (∃ r ∈ ranges, r.1 ≤ n ∧ n ≤ r.2) ∨ n ∈ s := by
  induction ranges with
  | nil => simp
  | cons r rest ih => simp [ih, or_assoc]

/-- The set of some ranges has the code points of each of them. -/
theorem mem_ofRanges {ranges : List (Nat × Nat)} {n : Nat} :
    n ∈ ofRanges ranges ↔ ∃ r ∈ ranges, r.1 ≤ n ∧ n ≤ r.2 := by
  simp [ofRanges, mem_foldr_insert]

/-- A union has the code points of both sets. -/
@[simp] theorem mem_union {a b : CharSet} {n : Nat} : n ∈ union a b ↔ n ∈ a ∨ n ∈ b := by
  rw [union, mem_foldr_insert]
  rfl

/-- The set of every other code point of some runs, both ends included. -/
def ofRuns (runs : List (Nat × Nat)) : CharSet :=
  ofRanges (runs.flatMap fun r =>
    (List.range ((r.2 - r.1) / 2 + 1)).map fun i => (r.1 + 2 * i, r.1 + 2 * i))

/-- Whether a code point is in a set. -/
def containsCode (s : CharSet) (n : Nat) : Bool := s.ranges.any fun r => r.1 ≤ n && n ≤ r.2

/-- Whether a character is in a set. -/
def contains (s : CharSet) (c : Char) : Bool := s.containsCode c.toNat

theorem contains_iff {s : CharSet} {c : Char} : s.contains c = true ↔ c.toNat ∈ s := by
  simp [contains, containsCode, mem_iff]

/-- The largest code point. -/
def lastCode : Nat := 0x10FFFF

/-- The ranges between ascending ranges, from `start` on. -/
def gaps (start : Nat) : List (Nat × Nat) → List (Nat × Nat)
  | [] => [(start, lastCode)]
  | r :: rest =>
    if start < r.1 then (start, r.1 - 1) :: gaps (r.2 + 1) rest else gaps (r.2 + 1) rest

/-- The characters that are not in a set. -/
def compl (s : CharSet) : CharSet := ofRanges (gaps 0 s.ranges)

theorem within_gaps {start n : Nat} {l : List (Nat × Nat)}
    (hl : l.Pairwise fun s t => s.2 + 1 < t.1) (hv : ∀ s ∈ l, s.1 ≤ s.2)
    (hs : ∀ s ∈ l, start ≤ s.1) (hn : n ≤ lastCode) :
    Within (gaps start l) n ↔ start ≤ n ∧ ¬ Within l n := by
  induction l generalizing start with
  | nil => simp [gaps, Within, hn]
  | cons r rest ih =>
    obtain ⟨hgap, hpair⟩ := List.pairwise_cons.1 hl
    have hr : r.1 ≤ r.2 := hv r (by simp)
    have hstart : start ≤ r.1 := hs r (by simp)
    have cons (t : Nat × Nat) (l : List (Nat × Nat)) :
        Within (t :: l) n ↔ (t.1 ≤ n ∧ n ≤ t.2) ∨ Within l n := by simp [Within]
    have after : Within rest n → r.2 + 1 < n := by
      rintro ⟨t, ht, h⟩
      have := hgap t ht
      omega
    have key : Within (gaps (r.2 + 1) rest) n ↔ r.2 + 1 ≤ n ∧ ¬ Within rest n :=
      ih hpair (fun t ht => hv t (by simp [ht])) fun t ht => Nat.le_of_lt (hgap t ht)
    unfold gaps
    split
    · rw [cons, key, cons]
      simp only
      by_cases h : Within rest n
      · have := after h
        simp only [h, not_true_eq_false, and_false, or_false, or_true, iff_false]
        omega
      · simp only [h, not_false_eq_true, and_true, or_false]
        omega
    · rw [key, cons]
      by_cases h : Within rest n
      · simp [h]
      · simp only [h, not_false_eq_true, and_true, or_false]
        omega

/-- A complement has the code points that are not in the set. -/
theorem mem_compl {s : CharSet} {n : Nat} (hn : n ≤ lastCode) : n ∈ compl s ↔ ¬ n ∈ s := by
  rw [compl, mem_ofRanges]
  exact (within_gaps s.apart s.valid (by simp) hn).trans (by simp; rfl)

/-- The characters of two sets at once. -/
def inter (a b : CharSet) : CharSet := compl (union (compl a) (compl b))

/-- An intersection has the code points that are in both sets. -/
theorem mem_inter {a b : CharSet} {n : Nat} (hn : n ≤ lastCode) :
    n ∈ inter a b ↔ n ∈ a ∧ n ∈ b := by
  rw [inter, mem_compl hn, mem_union, mem_compl hn, mem_compl hn]
  simp

/-- The last character before the surrogates. -/
def beforeSurrogates : Nat := 0xD7FF

/-- The first character after the surrogates. -/
def afterSurrogates : Nat := 0xE000

/-- A set whose ranges begin and end at characters: it has the surrogates, which are none, only if
it has the characters on both sides of them. -/
def trimmed (s : CharSet) : CharSet :=
  if s.containsCode beforeSurrogates && s.containsCode afterSurrogates then s
  else inter s (compl (ofRanges [(beforeSurrogates + 1, afterSurrogates - 1)]))

/-- The characters of the first set that are not in the second. -/
def diff (a b : CharSet) : CharSet := trimmed (inter a (compl b))

/-- The characters that a negated class leaves. The ranges are those between the ranges of the set;
where one of these ends before the surrogates and the next begins after them, there is nothing
between them, and the negation has both of these ends. -/
def negation (s : CharSet) : CharSet :=
  if s.containsCode beforeSurrogates && s.containsCode afterSurrogates
      && !s.containsCode (beforeSurrogates + 1) then
    insert (beforeSurrogates, afterSurrogates) (compl s)
  else trimmed (compl s)

/-- The characters of exactly one of two sets. -/
def symmDiff (a b : CharSet) : CharSet := union (diff a b) (diff b a)

/-- The characters from `first` to `last`, both included. -/
def range (first last : Char) : CharSet := ofRanges [(first.toNat, last.toNat)]

/-- The set of one character. -/
def single (c : Char) : CharSet := range c c

/-- The set of all characters. -/
def all : CharSet := ofRanges [(0, lastCode)]

/-- The set of the ASCII characters. -/
def ascii : CharSet := range '\x00' '\x7F'

/-- The union of some sets. -/
def ofList (sets : List CharSet) : CharSet := sets.foldr union empty

/-- Whether all characters of a set are ASCII characters. -/
def isAscii (s : CharSet) : Bool := s.ranges.all fun r => r.2 < 0x80

/-- The set of the ASCII characters of a class, by the name of the class. -/
def ofName? : String → Option CharSet
  | "alnum" => some (ofList [range '0' '9', range 'A' 'Z', range 'a' 'z'])
  | "alpha" => some (ofList [range 'A' 'Z', range 'a' 'z'])
  | "ascii" => some ascii
  | "blank" => some (ofList [single '\t', single ' '])
  | "cntrl" => some (ofList [range '\x00' '\x1F', single '\x7F'])
  | "digit" => some (range '0' '9')
  | "graph" => some (range '!' '~')
  | "lower" => some (range 'a' 'z')
  | "print" => some (range ' ' '~')
  | "punct" => some (ofList [range '!' '/', range ':' '@', range '[' '\x60', range '\x7B' '~'])
  | "space" => some (ofList [range '\t' '\r', single ' '])
  | "upper" => some (range 'A' 'Z')
  | "word" => some (ofList [range '0' '9', range 'A' 'Z', range 'a' 'z', single '_'])
  | "xdigit" => some (ofList [range '0' '9', range 'A' 'F', range 'a' 'f'])
  | _ => none

end CharSet

end CallAtlas
