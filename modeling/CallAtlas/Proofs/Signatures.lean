import CallAtlas.Reference
import CallAtlas.Proofs.Texts

/-!
# Reading method signatures

A signature is an owner, an arrow, a name and a descriptor, the latter from an opening parenthesis
on. Arrows may recur after the first one and parentheses after the first one of the name, so a text
can be cut in several places; the cut is settled by the rule that the owner holds no arrow and the
name no parenthesis. An owner may end with the first character of an arrow, which does not make an
arrow earlier than the one that follows. Reading finds exactly these parts, and the written form of
a reference with such parts is read back.

## Main definitions

* `MethodRef.WellSpelled`: the parts of a reference are those of a signature

## Main results

* `MethodRef.breakArrow_eq_some_iff`: the first arrow
* `MethodRef.parse_eq_ok_iff`, `MethodRef.parse_eq_error_iff`: the texts that are signatures, and
  those that are not
* `MethodRef.signatures_read`: reading and writing signatures
-/

namespace CallAtlas

namespace MethodRef

/-- The parts of a reference are those of a signature. -/
structure WellSpelled (m : MethodRef) : Prop where
  owner_ne : m.owner ≠ ""
  arrow_not_infix : ¬ ['-', '>'] <:+: m.owner.toList
  name_ne : m.name ≠ ""
  paren_not_mem : '(' ∉ m.name.toList
  descriptor_head : m.descriptor.toList.head? = some '('

variable {cs owner rest : List Char} {m : MethodRef} {s : String}

/-! ## The cuts of a text -/

/-- **The first arrow**: what stands before it holds none. -/
theorem breakArrow_eq_some_iff :
    breakArrow cs = some (owner, rest) ↔
      cs = owner ++ '-' :: '>' :: rest ∧ ¬ ['-', '>'] <:+: owner := by
  fun_induction breakArrow cs generalizing owner with
  | case1 => simp
  | case2 after =>
    constructor
    · intro h
      cases h
      exact ⟨rfl, by simp⟩
    · rintro ⟨heq, harrow⟩
      -- an owner that starts with `-` goes on with `>`, or it is followed by `-`
      rcases owner with _ | ⟨c, _ | ⟨d, owner⟩⟩
      · cases heq
        rfl
      · simp at heq
      · simp only [List.cons_append, List.cons.injEq] at heq
        obtain ⟨rfl, rfl, -⟩ := heq
        exact absurd List.infix_append_left harrow
  | case3 c cs hne ih =>
    rw [Option.map_eq_some_iff]
    constructor
    · rintro ⟨⟨before, after⟩, h, heq⟩
      cases heq
      obtain ⟨rfl, harrow⟩ := ih.mp h
      refine ⟨rfl, fun hinfix => ?_⟩
      rcases List.infix_cons_iff.mp hinfix with ⟨tail, htail⟩ | hinfix
      · obtain ⟨rfl, rfl⟩ := List.cons.inj htail
        exact hne _ rfl rfl
      · exact harrow hinfix
    · rintro ⟨heq, harrow⟩
      cases owner with
      | nil =>
        obtain ⟨rfl, rfl⟩ := List.cons.inj heq
        exact absurd rfl (hne rest rfl)
      | cons d owner =>
        obtain ⟨rfl, rfl⟩ := List.cons.inj heq
        refine ⟨(owner, rest), ih.mpr ⟨rfl, fun hinfix => ?_⟩, rfl⟩
        exact harrow (List.infix_cons hinfix)

theorem takeWhile_paren {name descriptor : List Char} (hname : '(' ∉ name)
    (hdescriptor : descriptor.head? = some '(') :
    (name ++ descriptor).takeWhile (· ≠ '(') = name ∧
      (name ++ descriptor).dropWhile (· ≠ '(') = descriptor := by
  obtain ⟨tail, rfl⟩ := List.head?_eq_some_iff.mp hdescriptor
  have hall : ∀ c ∈ name, decide (c ≠ '(') = true := by
    intro c hc
    apply decide_eq_true
    rintro rfl
    exact hname hc
  rw [List.takeWhile_append_of_pos hall, List.dropWhile_append_of_pos hall]
  simp

theorem head?_dropWhile_paren (h : rest.dropWhile (· ≠ '(') ≠ []) :
    (rest.dropWhile (· ≠ '(')).head? = some '(' := by
  obtain ⟨c, hc⟩ := Option.isSome_iff_exists.mp (List.isSome_head?.mpr h)
  rw [hc]
  simpa using Text.eq_false_of_head?_dropWhile hc

/-! ## Signatures -/

theorem toList_text (m : MethodRef) :
    m.text.toList = m.owner.toList ++ '-' :: '>' :: (m.name.toList ++ m.descriptor.toList) := by
  simp [text]

theorem WellSpelled.descriptor_ne_nil (hm : m.WellSpelled) : m.descriptor.toList ≠ [] := by
  intro hnil
  have hhead := hm.descriptor_head
  rw [hnil] at hhead
  cases hhead

theorem WellSpelled.ofChars?_text (hm : m.WellSpelled) : ofChars? m.text.toList = some m := by
  have hbreak : breakArrow m.text.toList =
      some (m.owner.toList, m.name.toList ++ m.descriptor.toList) :=
    breakArrow_eq_some_iff.mpr ⟨toList_text m, hm.arrow_not_infix⟩
  obtain ⟨htake, hdrop⟩ := takeWhile_paren hm.paren_not_mem hm.descriptor_head
  have hne : ¬ (m.owner.toList = [] ∨ m.name.toList = [] ∨ m.descriptor.toList = []) := by
    rw [String.toList_eq_nil_iff, String.toList_eq_nil_iff]
    exact not_or.mpr ⟨hm.owner_ne, not_or.mpr ⟨hm.name_ne, hm.descriptor_ne_nil⟩⟩
  simp only [ofChars?, hbreak, htake, hdrop, if_neg hne, String.ofList_toList]

theorem wellSpelled_of_ofChars? (h : ofChars? cs = some m) :
    m.WellSpelled ∧ m.text.toList = cs := by
  rw [ofChars?] at h
  split at h
  · cases h
  · next owner rest hbreak =>
    obtain ⟨rfl, harrow⟩ := breakArrow_eq_some_iff.mp hbreak
    dsimp only at h
    split at h
    · cases h
    · next hne =>
      obtain ⟨howner, hname, hdescriptor⟩ : owner ≠ [] ∧ rest.takeWhile (· ≠ '(') ≠ [] ∧
          rest.dropWhile (· ≠ '(') ≠ [] := by simpa only [not_or] using hne
      obtain rfl := Option.some.inj h
      refine ⟨⟨?_, ?_, ?_, ?_, ?_⟩, ?_⟩
      · exact String.ofList_eq_empty_iff.not.mpr howner
      · rw [String.toList_ofList]
        exact harrow
      · exact String.ofList_eq_empty_iff.not.mpr hname
      · rw [String.toList_ofList]
        intro hmem
        simpa using List.mem_takeWhile_imp hmem
      · rw [String.toList_ofList]
        exact head?_dropWhile_paren hdescriptor
      · simp only [toList_text, String.toList_ofList, List.takeWhile_append_dropWhile]

/-- **Characters that are a signature** are those of a reference with the parts of one. -/
theorem ofChars?_eq_some_iff : ofChars? cs = some m ↔ m.WellSpelled ∧ m.text.toList = cs := by
  constructor
  · exact wellSpelled_of_ofChars?
  · rintro ⟨hm, rfl⟩
    exact hm.ofChars?_text

theorem parse_eq_ok_iff : parse s = .ok m ↔ m.WellSpelled ∧ m.text = Text.trim s := by
  have htext : m.text.toList = Text.trimChars s.toList ↔ m.text = Text.trim s := by
    rw [← String.toList_inj, Text.toList_trim]
  rw [← htext, ← ofChars?_eq_some_iff, parse]
  cases ofChars? (Text.trimChars s.toList) <;> simp

theorem parse_eq_error_iff {e : MalformedSignature} :
    parse s = .error e ↔
      (¬ ∃ m : MethodRef, m.WellSpelled ∧ m.text = Text.trim s) ∧ e = ⟨Text.trim s⟩ := by
  simp only [← parse_eq_ok_iff]
  rw [parse]
  cases ofChars? (Text.trimChars s.toList) <;> simp [eq_comm]

/-- The written form of a reference has no outer blanks if its two ends have none. -/
theorem WellSpelled.trim_text (hm : m.WellSpelled)
    (hfirst : ∀ c, m.owner.toList.head? = some c → Text.isBlank c = false)
    (hlast : ∀ c, m.descriptor.toList.getLast? = some c → Text.isBlank c = false) :
    Text.trim m.text = m.text := by
  have howner : m.owner.toList ≠ [] := String.toList_eq_nil_iff.not.mpr hm.owner_ne
  have hends : m.text.toList =
      (m.owner.toList ++ '-' :: '>' :: m.name.toList) ++ m.descriptor.toList := by
    simp [toList_text]
  rw [← String.toList_inj, Text.toList_trim]
  apply Text.trimChars_eq_self
  · intro c hc
    apply hfirst c
    rwa [toList_text, List.head?_append, Option.or_of_isSome (List.isSome_head?.mpr howner)] at hc
  · intro c hc
    apply hlast c
    rwa [hends, List.getLast?_append,
      Option.or_of_isSome (List.getLast?_isSome.mpr hm.descriptor_ne_nil)] at hc

/-- **Reading and writing signatures.** A text is read exactly if, without its outer blanks, it is
an owner that is not empty and holds no arrow, an arrow, a name that is not empty and holds no
opening parenthesis, and a descriptor that begins with one. There is at most one such cut; its parts
are those of the reference read, and writing them gives the trimmed text. Any other text is refused,
and the trimmed text is reported. Conversely, what is written for a reference with such parts is
read back, if its owner does not begin and its descriptor does not end with a blank. -/
theorem signatures_read :
    (∀ s : String,
      Text.IsTrim s.toList (Text.trim s).toList ∧
      (∀ m : MethodRef, parse s = .ok m ↔
        m.WellSpelled ∧ Text.trim s = m.owner ++ "->" ++ m.name ++ m.descriptor) ∧
      (∀ m n : MethodRef, m.WellSpelled → n.WellSpelled →
        Text.trim s = m.owner ++ "->" ++ m.name ++ m.descriptor →
        Text.trim s = n.owner ++ "->" ++ n.name ++ n.descriptor → m = n) ∧
      (∀ m, parse s = .ok m → m.text = Text.trim s) ∧
      ∀ e, parse s = .error e ↔
        (¬ ∃ m : MethodRef, m.WellSpelled ∧
          Text.trim s = m.owner ++ "->" ++ m.name ++ m.descriptor) ∧ e = ⟨Text.trim s⟩) ∧
    ∀ m : MethodRef, m.WellSpelled →
      (∀ c, m.owner.toList.head? = some c → Text.isBlank c = false) →
      (∀ c, m.descriptor.toList.getLast? = some c → Text.isBlank c = false) →
      parse m.text = .ok m := by
  have hcut : ∀ (s : String) (m : MethodRef),
      Text.trim s = m.owner ++ "->" ++ m.name ++ m.descriptor ↔ m.text = Text.trim s :=
    fun s m => eq_comm
  refine ⟨fun s => ⟨?_, ?_, ?_, ?_, ?_⟩, ?_⟩
  · rw [Text.toList_trim]
    exact Text.isTrim_trimChars s.toList
  · intro m
    rw [hcut, parse_eq_ok_iff]
  · intro m n hm hn hmtext hntext
    have hreadm : parse s = .ok m := parse_eq_ok_iff.mpr ⟨hm, (hcut s m).mp hmtext⟩
    have hreadn : parse s = .ok n := parse_eq_ok_iff.mpr ⟨hn, (hcut s n).mp hntext⟩
    exact Except.ok.inj (hreadm.symm.trans hreadn)
  · intro m hm
    exact (parse_eq_ok_iff.mp hm).2
  · intro e
    simp only [hcut]
    exact parse_eq_error_iff
  · intro m hm hfirst hlast
    exact parse_eq_ok_iff.mpr ⟨hm, (hm.trim_text hfirst hlast).symm⟩

/-- The arrow after an owner that ends with a hyphen is not found one character early. -/
theorem signatures_read_hyphen :
    WellSpelled ⟨"La-", "f->", "()(->)"⟩ ∧
      parse "La-->f->()(->)" = .ok ⟨"La-", "f->", "()(->)"⟩ := by
  have hspelled : WellSpelled ⟨"La-", "f->", "()(->)"⟩ :=
    ⟨by decide, by decide, by decide, by decide, by decide⟩
  refine ⟨hspelled, signatures_read.2 _ hspelled ?_ ?_⟩
  · intro c hc
    obtain rfl : 'L' = c := by simpa using hc
    rfl
  · intro c hc
    obtain rfl : ')' = c := by simpa using hc
    rfl

end MethodRef

end CallAtlas
