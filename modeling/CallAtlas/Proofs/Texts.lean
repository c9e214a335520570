import CallAtlas.Text
import Mathlib.Data.List.TakeWhile

/-!
# The parts of a text

What the functions on texts cut out, said without them: a trimmed text is what lies between two runs
of blanks, fields are the texts that a separator joins, lines are the texts before the line endings,
and a numeral is a number in positional notation. Each function finds the only such parts.

## Main definitions

* `IsTrim cs t`: `t` is `cs` without its outer blanks
* `IsFields sep cs fs`: `cs` is `fs` joined by `sep`
* `Lines cs ls`: the lines of `cs` are `ls`
* `IsNumeral cs n`: `cs` is a decimal numeral for `n`

## Main results

* `trimChars_eq_iff`, `fields_eq_iff`, `lines_eq_iff`: trimming, fields and lines
* `readWord?_eq_some_iff`: the numerals that are read as words
* `toDigits_hex_inj`, `eq_zero_of_head?_toDigits`: hexadecimal numerals differ, and have no leading
  zeros
-/

namespace CallAtlas.Text

variable {cs t : List Char}

/-! ## Outer blanks -/

/-- `t` is what lies in `cs` between two runs of blanks, and it neither begins nor ends with one. -/
structure IsTrim (cs t : List Char) : Prop where
  between : ∃ before after, cs = before ++ t ++ after ∧ (∀ c ∈ before, isBlank c = true) ∧
    ∀ c ∈ after, isBlank c = true
  head : ∀ c, t.head? = some c → isBlank c = false
  last : ∀ c, t.getLast? = some c → isBlank c = false

/-- What is left of a text begins with a character that is not dropped. -/
theorem eq_false_of_head?_dropWhile {p : Char → Bool} {c : Char}
    (h : (cs.dropWhile p).head? = some c) : p c = false := by
  rw [← List.find?_not_eq_head?_dropWhile] at h
  simpa using List.find?_some h

theorem isTrim_trimChars (cs : List Char) : IsTrim cs (trimChars cs) := by
  let front := cs.takeWhile isBlank
  let rest := cs.dropWhile isBlank
  let back := (rest.reverse.takeWhile isBlank).reverse
  have hrest : trimChars cs ++ back = rest := by
    show (rest.reverse.dropWhile isBlank).reverse ++ (rest.reverse.takeWhile isBlank).reverse = rest
    rw [← List.reverse_append, List.takeWhile_append_dropWhile, List.reverse_reverse]
  refine ⟨⟨front, back, ?_, ?_, ?_⟩, ?_, ?_⟩
  · rw [List.append_assoc, hrest]
    exact List.takeWhile_append_dropWhile.symm
  · intro c hc
    exact List.mem_takeWhile_imp hc
  · intro c hc
    exact List.mem_takeWhile_imp (List.mem_reverse.mp hc)
  · intro c hc
    have hfirst : rest.head? = some c := by
      rw [← hrest, List.head?_append, hc, Option.some_or]
    exact eq_false_of_head?_dropWhile hfirst
  · intro c hc
    rw [trimChars, List.getLast?_reverse] at hc
    exact eq_false_of_head?_dropWhile hc

theorem dropWhile_isBlank_eq_self (h : ∀ c, cs.head? = some c → isBlank c = false) :
    cs.dropWhile isBlank = cs := by
  cases cs with
  | nil => rfl
  | cons c cs =>
    apply List.dropWhile_cons_of_neg
    simp [h c rfl]

theorem IsTrim.trimChars_eq (h : IsTrim cs t) : trimChars cs = t := by
  obtain ⟨⟨before, after, rfl, hbefore, hafter⟩, hhead, hlast⟩ := h
  rw [trimChars, List.append_assoc, List.dropWhile_append_of_pos hbefore]
  cases t with
  | nil =>
    have hnil : after.dropWhile isBlank = [] := List.dropWhile_eq_nil_iff.mpr hafter
    simp [hnil]
  | cons c t =>
    have hfront : (c :: t ++ after).dropWhile isBlank = c :: t ++ after := by
      apply dropWhile_isBlank_eq_self
      intro d hd
      exact hhead d hd
    have hback : (c :: t).reverse.dropWhile isBlank = (c :: t).reverse := by
      apply dropWhile_isBlank_eq_self
      intro d hd
      exact hlast d (List.head?_reverse.symm.trans hd)
    have hafter' : ∀ d ∈ after.reverse, isBlank d = true := by
      intro d hd
      exact hafter d (List.mem_reverse.mp hd)
    rw [hfront, List.reverse_append, List.dropWhile_append_of_pos hafter', hback,
      List.reverse_reverse]

/-- **Trimming** leaves what lies between the outer blanks. -/
theorem trimChars_eq_iff : trimChars cs = t ↔ IsTrim cs t := by
  constructor
  · rintro rfl
    exact isTrim_trimChars cs
  · exact IsTrim.trimChars_eq

/-- A text that neither begins nor ends with a blank stays as it is. -/
theorem trimChars_eq_self (hhead : ∀ c, cs.head? = some c → isBlank c = false)
    (hlast : ∀ c, cs.getLast? = some c → isBlank c = false) : trimChars cs = cs :=
  trimChars_eq_iff.mpr ⟨⟨[], [], by simp, by simp, by simp⟩, hhead, hlast⟩

/-! ## Fields -/

/-- `cs` is the list `fs` of texts, none of which holds `sep`, joined by `sep`. -/
structure IsFields (sep : Char) (cs : List Char) (fs : List (List Char)) : Prop where
  ne_nil : fs ≠ []
  not_mem : ∀ f ∈ fs, sep ∉ f
  joined : [sep].intercalate fs = cs

theorem fields_eq_splitOn (sep : Char) (cs : List Char) : fields sep cs = cs.splitOn sep := by
  induction cs with
  | nil => rfl
  | cons c cs ih =>
    rw [fields, List.splitOn_cons_eq_if_modifyHead, ih]
    by_cases hc : c = sep
    · rw [if_pos hc, if_pos (beq_iff_eq.mpr hc)]
    · rw [if_neg hc, if_neg (by simpa using hc)]
      cases hfs : cs.splitOn sep with
      | nil => exact absurd hfs (List.splitOn_ne_nil sep cs)
      | cons f fs => rfl

theorem not_mem_of_mem_fields {sep : Char} {f : List Char} (hf : f ∈ fields sep cs) : sep ∉ f := by
  induction cs generalizing f with
  | nil =>
    obtain rfl : f = [] := by simpa using hf
    exact List.not_mem_nil
  | cons c cs ih =>
    rw [fields] at hf
    split at hf
    · rcases List.mem_cons.mp hf with rfl | hf
      · exact List.not_mem_nil
      · exact ih hf
    · next hc =>
      cases hfs : fields sep cs with
      | nil => exact absurd hfs (fields_ne_nil sep cs)
      | cons g gs =>
        rw [hfs] at hf ih
        rcases List.mem_cons.mp hf with rfl | hf
        · rw [List.mem_cons, not_or]
          exact ⟨fun h => hc h.symm, ih List.mem_cons_self⟩
        · exact ih (List.mem_cons_of_mem g hf)

/-- **Fields** are the texts that the separator joins. -/
theorem fields_eq_iff {sep : Char} {fs : List (List Char)} :
    fields sep cs = fs ↔ IsFields sep cs fs := by
  constructor
  · rintro rfl
    refine ⟨fields_ne_nil sep cs, fun f hf => not_mem_of_mem_fields hf, ?_⟩
    rw [fields_eq_splitOn, List.intercalate_splitOn]
  · rintro ⟨hne, hmem, rfl⟩
    rw [fields_eq_splitOn, List.splitOn_intercalate sep hmem hne]

/-! ## Lines -/

/-- The lines of a text, each ended by a line feed or by a carriage return and a line feed. The last
one may lack its ending, unless it is empty. -/
inductive Lines : List Char → List (List Char) → Prop where
  | nil : Lines [] []
  | unended {line : List Char} (hne : line ≠ []) (hline : '\n' ∉ line) : Lines line [line]
  | feed {line rest : List Char} {lines : List (List Char)} (hline : '\n' ∉ line)
      (hreturn : line.getLast? ≠ some '\r') (hrest : Lines rest lines) :
      Lines (line ++ '\n' :: rest) (line :: lines)
  | returnFeed {line rest : List Char} {lines : List (List Char)} (hline : '\n' ∉ line)
      (hrest : Lines rest lines) : Lines (line ++ '\r' :: '\n' :: rest) (line :: lines)

/-- A character that neither ends a line nor begins an ending joins the first line. -/
theorem lines_cons_of_ne {c : Char} (hfeed : c ≠ '\n')
    (hreturn : c = '\r' → cs.head? ≠ some '\n') :
    lines (c :: cs) = (c :: (lines cs).headD []) :: (lines cs).tail := by
  rw [lines]
  · cases lines cs <;> rfl
  · intro h
    exact hfeed h
  · rintro rest rfl rfl
    exact hreturn rfl rfl

/-- What stands before a line feed at the front is nothing. -/
theorem eq_nil_of_head?_append {line rest : List Char} (hline : '\n' ∉ line)
    (h : (line ++ rest).head? = some '\n') : line = [] := by
  cases line with
  | nil => rfl
  | cons c line =>
    obtain rfl : c = '\n' := by simpa using h
    exact absurd List.mem_cons_self hline

theorem lines_append_feed {line : List Char} (rest : List Char) (hline : '\n' ∉ line)
    (hreturn : line.getLast? ≠ some '\r') :
    lines (line ++ '\n' :: rest) = line :: lines rest := by
  induction line with
  | nil => rfl
  | cons c line ih =>
    obtain ⟨hc, htail⟩ := not_or.mp (List.mem_cons.not.mp hline)
    have hlast : line.getLast? ≠ some '\r' := by
      intro h
      rw [List.getLast?_cons, h] at hreturn
      exact hreturn rfl
    rw [List.cons_append, lines_cons_of_ne (Ne.symm hc), ih htail hlast]
    · rfl
    · -- no line feed follows a carriage return, which would be the last of the line
      rintro rfl hhead
      obtain rfl := eq_nil_of_head?_append htail hhead
      exact hreturn rfl

theorem lines_append_returnFeed {line : List Char} (rest : List Char) (hline : '\n' ∉ line) :
    lines (line ++ '\r' :: '\n' :: rest) = line :: lines rest := by
  induction line with
  | nil => rfl
  | cons c line ih =>
    obtain ⟨hc, htail⟩ := not_or.mp (List.mem_cons.not.mp hline)
    rw [List.cons_append, lines_cons_of_ne (Ne.symm hc), ih htail]
    · rfl
    · rintro - hhead
      obtain rfl := eq_nil_of_head?_append htail hhead
      simp at hhead

theorem lines_of_not_mem {line : List Char} (hne : line ≠ []) (hline : '\n' ∉ line) :
    lines line = [line] := by
  induction line with
  | nil => exact absurd rfl hne
  | cons c line ih =>
    obtain ⟨hc, htail⟩ := not_or.mp (List.mem_cons.not.mp hline)
    rw [lines_cons_of_ne (Ne.symm hc)]
    · cases line with
      | nil => rfl
      | cons d line =>
        rw [ih (List.cons_ne_nil d line) htail]
        rfl
    · rintro - hhead
      exact htail (List.mem_of_head? hhead)

theorem Lines.lines_eq {ls : List (List Char)} (h : Lines cs ls) : lines cs = ls := by
  induction h with
  | nil => rfl
  | unended hne hline => exact lines_of_not_mem hne hline
  | feed hline hreturn _ ih => rw [lines_append_feed _ hline hreturn, ih]
  | returnFeed hline _ ih => rw [lines_append_returnFeed _ hline, ih]

/-- A character that neither ends a line nor begins an ending joins the first line. -/
theorem Lines.cons {c : Char} {line : List Char} {ls : List (List Char)}
    (h : Lines cs (line :: ls)) (hfeed : c ≠ '\n') (hreturn : c = '\r' → cs.head? ≠ some '\n') :
    Lines (c :: cs) ((c :: line) :: ls) := by
  have hjoin : '\n' ∉ line → '\n' ∉ c :: line := by
    intro hline hmem
    rcases List.mem_cons.mp hmem with heq | hmem
    · exact hfeed heq.symm
    · exact hline hmem
  cases h with
  | unended hne hline => exact .unended (List.cons_ne_nil c _) (hjoin hline)
  | feed hline hlast hrest =>
    refine .feed (hjoin hline) ?_ hrest
    intro h
    cases line with
    | nil =>
      obtain rfl : c = '\r' := by simpa using h
      exact hreturn rfl rfl
    | cons d line => exact hlast (by rwa [List.getLast?_cons_cons] at h)
  | returnFeed hline hrest => exact .returnFeed (hjoin hline) hrest

theorem lines_lines (cs : List Char) : Lines cs (lines cs) := by
  fun_induction lines cs with
  | case1 => exact .nil
  | case2 cs ih =>
    show Lines ([] ++ '\n' :: cs) _
    exact .feed List.not_mem_nil (by simp) ih
  | case3 cs ih =>
    show Lines ([] ++ '\r' :: '\n' :: cs) _
    exact .returnFeed List.not_mem_nil ih
  | case4 c cs hfeed hreturn hnil ih =>
    rw [hnil] at ih
    cases ih
    refine .unended (List.cons_ne_nil c []) ?_
    rw [List.mem_singleton]
    exact fun h => hfeed h.symm
  | case5 c cs hfeed hreturn line ls hlines ih =>
    rw [hlines] at ih
    refine ih.cons hfeed ?_
    rintro rfl hhead
    obtain ⟨rest, rfl⟩ := List.head?_eq_some_iff.mp hhead
    exact hreturn rest rfl rfl

/-- **Lines** are the texts before the line endings. -/
theorem lines_eq_iff {ls : List (List Char)} : lines cs = ls ↔ Lines cs ls := by
  constructor
  · rintro rfl
    exact lines_lines cs
  · exact Lines.lines_eq

/-! ## Decimal numerals -/

/-- A decimal numeral for `n`: at least one digit, after an optional plus sign. -/
def IsNumeral (cs : List Char) (n : Nat) : Prop :=
  ∃ digits, (cs = digits ∨ cs = '+' :: digits) ∧ digits ≠ [] ∧
    (∀ d ∈ digits, d.isDigit = true) ∧ Nat.ofDigitChars 10 digits 0 = n

theorem digitValue?_eq_some_iff {c : Char} {v : Nat} :
    digitValue? c = some v ↔ c.isDigit = true ∧ c.toNat - '0'.toNat = v := by
  have hdigit : c.isDigit = true ↔ '0' ≤ c ∧ c ≤ '9' := by
    rw [Char.isDigit, Bool.and_eq_true, decide_eq_true_eq, decide_eq_true_eq]
    rfl
  rw [digitValue?, hdigit]
  split <;> simp [*]

theorem readDigits?_eq_some_iff {acc n : Nat} :
    readDigits? acc cs = some n ↔
      (∀ d ∈ cs, d.isDigit = true) ∧ Nat.ofDigitChars 10 cs acc = n := by
  induction cs generalizing acc with
  | nil => simp [readDigits?]
  | cons c cs ih =>
    rw [readDigits?, Option.bind_eq_bind, Option.bind_eq_some_iff, List.forall_mem_cons]
    simp only [digitValue?_eq_some_iff, ih, Nat.ofDigitChars_eq_foldl, List.foldl_cons]
    constructor
    · rintro ⟨v, ⟨hc, rfl⟩, hcs, hn⟩
      exact ⟨⟨hc, hcs⟩, by rw [Nat.mul_comm]; exact hn⟩
    · rintro ⟨⟨hc, hcs⟩, hn⟩
      exact ⟨_, ⟨hc, rfl⟩, hcs, by rw [Nat.mul_comm]; exact hn⟩

theorem readNumeral?_eq_some_iff {n : Nat} : readNumeral? cs = some n ↔ IsNumeral cs n := by
  have hplus : ¬ '+'.isDigit = true := by decide
  fun_cases readNumeral? cs with
  | case1 => simp [IsNumeral]
  | case2 => simp [IsNumeral, hplus]
  | case3 cs hne =>
    rw [readDigits?_eq_some_iff]
    constructor
    · rintro ⟨hcs, hn⟩
      exact ⟨cs, .inr rfl, hne, hcs, hn⟩
    · rintro ⟨digits, rfl | heq, -, hdigits, hn⟩
      · exact absurd (hdigits '+' List.mem_cons_self) hplus
      · obtain ⟨-, rfl⟩ := List.cons.inj heq
        exact ⟨hdigits, hn⟩
  | case4 cs hnil _ hsign =>
    rw [readDigits?_eq_some_iff]
    constructor
    · rintro ⟨hcs, hn⟩
      exact ⟨cs, .inl rfl, hnil, hcs, hn⟩
    · rintro ⟨digits, rfl | rfl, -, hdigits, hn⟩
      · exact ⟨hdigits, hn⟩
      · exact absurd rfl (hsign digits)

/-- **Words** are read from the numerals of their values. -/
theorem readWord?_eq_some_iff {s : String} {w : UInt32} :
    readWord? s = some w ↔ IsNumeral s.toList w.toNat := by
  rw [readWord?, Option.bind_eq_bind, Option.bind_eq_some_iff]
  simp only [readNumeral?_eq_some_iff]
  constructor
  · rintro ⟨n, hn, h⟩
    split at h
    · next hlt =>
      obtain rfl := Option.some.inj h
      rwa [UInt32.toNat_ofNat_of_lt' hlt]
    · cases h
  · intro h
    refine ⟨w.toNat, h, ?_⟩
    rw [if_pos w.toNat_lt, UInt32.ofNat_toNat]

theorem readWord?_eq_none_iff {s : String} :
    readWord? s = none ↔ ∀ n ≤ 4294967295, ¬ IsNumeral s.toList n := by
  rw [Option.eq_none_iff_forall_ne_some]
  simp only [ne_eq, readWord?_eq_some_iff]
  constructor
  · intro h n hn hnumeral
    apply h (UInt32.ofNat n)
    rwa [UInt32.toNat_ofNat_of_lt' (Nat.lt_succ_of_le hn)]
  · intro h w
    exact h w.toNat (Nat.le_of_lt_succ w.toNat_lt)

/-! ## Hexadecimal numerals -/

theorem digitChar_inj_of_lt {m n : Nat} (hm : m < 16) (hn : n < 16)
    (h : m.digitChar = n.digitChar) : m = n := by
  have hall : ∀ i < 16, ∀ j < 16, Nat.digitChar i = Nat.digitChar j → i = j := by decide
  exact hall m hm n hn h

/-- Different numbers have different hexadecimal digits. -/
theorem toDigits_hex_inj {m n : Nat} (h : Nat.toDigits 16 m = Nat.toDigits 16 n) : m = n := by
  induction m using Nat.strongRecOn generalizing n with
  | ind m ih =>
    have hone : ∀ {k d : Nat} {c : Char}, Nat.toDigits 16 k ++ [d.digitChar] ≠ [c] := by
      intro k d c heq
      simpa using congrArg List.length heq
    rw [Nat.toDigits_eq_if (n := m) (by decide), Nat.toDigits_eq_if (n := n) (by decide)] at h
    split at h <;> split at h
    · next hm hn => exact digitChar_inj_of_lt hm hn (List.singleton_inj.mp h)
    · exact absurd h.symm hone
    · exact absurd h hone
    · next hm hn =>
      obtain ⟨hinit, hlast⟩ := List.append_inj' h rfl
      have hdiv : m / 16 = n / 16 := ih (m / 16) (by omega) hinit
      have hmod : m % 16 = n % 16 :=
        digitChar_inj_of_lt (Nat.mod_lt m (by decide)) (Nat.mod_lt n (by decide))
          (List.singleton_inj.mp hlast)
      omega

/-- Only zero is written with a zero in front. -/
theorem eq_zero_of_head?_toDigits {n : Nat} (h : (Nat.toDigits 16 n).head? = some '0') : n = 0 := by
  induction n using Nat.strongRecOn with
  | ind n ih =>
    rw [Nat.toDigits_eq_if (by decide)] at h
    split at h
    · exact Nat.digitChar_eq_zero.mp (by simpa using h)
    · rw [List.head?_append, Option.or_of_isSome (by simp)] at h
      have hquotient : n / 16 = 0 := ih (n / 16) (by omega) h
      omega

theorem x_not_mem_toDigits (n : Nat) : 'x' ∉ Nat.toDigits 16 n := by
  have hdigit : ∀ d < 16, 'x' ≠ Nat.digitChar d := by decide
  induction n using Nat.strongRecOn with
  | ind n ih =>
    rw [Nat.toDigits_eq_if (by decide)]
    split
    · next hn => exact List.mem_singleton.not.mpr (hdigit n hn)
    · rw [List.mem_append, List.mem_singleton, not_or]
      exact ⟨ih (n / 16) (by omega), hdigit _ (Nat.mod_lt n (by decide))⟩

end CallAtlas.Text
