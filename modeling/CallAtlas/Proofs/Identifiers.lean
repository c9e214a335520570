import CallAtlas.Proofs.Filtering
import CallAtlas.Proofs.Texts

/-!
# The identifiers of nodes

An identifier joins the owner, the name and the descriptor of a method and a mark without any
separator. It is taken apart from its two ends. From the front, the owner reaches up to the first
semicolon and the name up to the parenthesis that opens the descriptor. The descriptor may go on
with anything, also with what looks like a mark, so the mark is read from the back: the digits after
the last `x` are those of the offset of a block, or four zeros for a placeholder. A block never has
four zeros, since offsets are written without leading zeros.

## Main definitions

* `MethodRef.Delimited`: owner and name end where the text of the next part begins
* `CallNode.lead`, `CallNode.digits`: the two parts of a mark

## Main results

* `MethodRef.signature_append_inj`: the parts at the front
* `CallNode.digits_inj`: the mark at the back
* `CallNode.identifiers_distinct`: different nodes have different identifiers, also in an export
-/

namespace CallAtlas

section Cut

variable {c : Char} {xs ys as bs : List Char}

/-- A text is cut in one way at the first occurrence of a character. -/
theorem eq_of_append_cons_eq (hx : c ∉ xs) (hy : c ∉ ys) (h : xs ++ c :: as = ys ++ c :: bs) :
    xs = ys ∧ as = bs := by
  have hsplit := congrArg (List.splitOn c) h
  rw [List.splitOn_append_cons_self_of_not_mem hx, List.splitOn_append_cons_self_of_not_mem hy]
    at hsplit
  obtain ⟨rfl, -⟩ := List.cons.inj hsplit
  exact ⟨rfl, (List.cons.inj (List.append_cancel_left h)).2⟩

/-- A text is cut in one way at the last occurrence of a character. -/
theorem eq_of_append_cons_eq_of_last (ha : c ∉ as) (hb : c ∉ bs)
    (h : xs ++ c :: as = ys ++ c :: bs) : xs = ys ∧ as = bs := by
  have hrev := congrArg List.reverse h
  simp only [List.reverse_append, List.reverse_cons, List.append_assoc, List.singleton_append]
    at hrev
  obtain ⟨has, hxs⟩ :=
    eq_of_append_cons_eq (List.mem_reverse.not.mpr ha) (List.mem_reverse.not.mpr hb) hrev
  exact ⟨List.reverse_injective hxs, List.reverse_injective has⟩

end Cut

namespace MethodRef

variable {m n : MethodRef} {s t : List Char}

/-- The only semicolon of the owner ends it, the name holds no opening parenthesis, and the
descriptor begins with one. -/
structure Delimited (m : MethodRef) : Prop where
  owner_eq : ∃ body, m.owner.toList = body ++ [';'] ∧ ';' ∉ body
  paren_not_mem : '(' ∉ m.name.toList
  descriptor_head : m.descriptor.toList.head? = some '('

/-- What follows the name of a method shows where its parts end. -/
theorem signature_append_inj (hm : m.Delimited) (hn : n.Delimited)
    (h : m.signature.toList ++ s = n.signature.toList ++ t) :
    m.owner = n.owner ∧ m.name = n.name ∧
      m.descriptor.toList ++ s = n.descriptor.toList ++ t := by
  obtain ⟨body, howner, hbody⟩ := hm.owner_eq
  obtain ⟨body', howner', hbody'⟩ := hn.owner_eq
  obtain ⟨tail, hdescriptor⟩ := List.head?_eq_some_iff.mp hm.descriptor_head
  obtain ⟨tail', hdescriptor'⟩ := List.head?_eq_some_iff.mp hn.descriptor_head
  have hparts : body ++ ';' :: (m.name.toList ++ '(' :: (tail ++ s)) =
      body' ++ ';' :: (n.name.toList ++ '(' :: (tail' ++ t)) := by
    simpa [signature, howner, howner', hdescriptor, hdescriptor'] using h
  obtain ⟨rfl, hrest⟩ := eq_of_append_cons_eq hbody hbody' hparts
  obtain ⟨hname, htail⟩ := eq_of_append_cons_eq hm.paren_not_mem hn.paren_not_mem hrest
  refine ⟨?_, String.toList_inj.mp hname, ?_⟩
  · rw [← String.toList_inj, howner, howner']
  · rw [hdescriptor, hdescriptor', List.cons_append, List.cons_append, htail]

end MethodRef

namespace CallNode

variable {m n : CallNode}

/-- What the mark of a node begins with, before the `x`. -/
def lead : CallNode → List Char
  | block _ _ => ['@', '0']
  | placeholder _ => ['0']

/-- The digits at the end of an identifier: the offset of a block, zeros for a placeholder. -/
def digits : CallNode → List Char
  | block _ a => Nat.toDigits 16 a.toNat
  | placeholder _ => ['0', '0', '0', '0']

theorem toList_id (n : CallNode) :
    n.id.toList = n.method.signature.toList ++ (n.lead ++ 'x' :: n.digits) := by
  cases n with
  | block m a => simp [id, method, lead, digits, Text.hex]
  | placeholder m => simp [id, method, lead, digits]

theorem x_not_mem_digits (n : CallNode) : 'x' ∉ n.digits := by
  cases n with
  | block m a => exact Text.x_not_mem_toDigits a.toNat
  | placeholder m => simp [digits]

/-- No offset is written with four zeros. -/
theorem toDigits_ne_zeros (k : Nat) : Nat.toDigits 16 k ≠ ['0', '0', '0', '0'] := by
  intro h
  obtain rfl : k = 0 := by
    apply Text.eq_zero_of_head?_toDigits
    rw [h]
    rfl
  rw [Nat.toDigits_zero] at h
  cases h

/-- Nodes with the same digits are both blocks or both placeholders, and blocks of one method are
then the same. -/
theorem digits_inj (h : m.digits = n.digits) : m.lead = n.lead ∧ (m.method = n.method → m = n) := by
  cases m with
  | block m a =>
    cases n with
    | block n b =>
      refine ⟨rfl, fun hmethod => ?_⟩
      obtain rfl : m = n := hmethod
      rw [Offset.ext_toNat (Text.toDigits_hex_inj h)]
    | placeholder n => exact absurd h (toDigits_ne_zeros a.toNat)
  | placeholder m =>
    cases n with
    | block n b => exact absurd h.symm (toDigits_ne_zeros b.toNat)
    | placeholder n =>
      exact ⟨rfl, fun hmethod => congrArg placeholder hmethod⟩

/-- **An identifier is that of one node.** -/
theorem id_inj (hm : m.method.Delimited) (hn : n.method.Delimited) (h : m.id = n.id) : m = n := by
  rw [← String.toList_inj, toList_id, toList_id] at h
  obtain ⟨howner, hname, hrest⟩ := MethodRef.signature_append_inj hm hn h
  rw [← List.append_assoc, ← List.append_assoc] at hrest
  -- the digits follow the last `x`, and tell how much before it belongs to the mark
  obtain ⟨hfront, hdigits⟩ :=
    eq_of_append_cons_eq_of_last m.x_not_mem_digits n.x_not_mem_digits hrest
  obtain ⟨hlead, heq⟩ := digits_inj hdigits
  rw [hlead] at hfront
  have hdescriptor : m.method.descriptor = n.method.descriptor :=
    String.toList_inj.mp (List.append_cancel_right hfront)
  apply heq
  show MethodRef.mk m.method.owner m.method.name m.method.descriptor = n.method
  rw [howner, hname, hdescriptor]

/-- **Identifiers tell nodes apart.** Among methods whose owner is ended by its only semicolon, whose
name holds no opening parenthesis and whose descriptor begins with one, nodes with the same
identifier are the same; in particular no block has the identifier of a placeholder. In the export
of a graph of such nodes, where each call is written as the identifiers of its two ends, no two nodes
share an identifier. -/
theorem identifiers_distinct :
    (∀ m n : CallNode, m.method.Delimited → n.method.Delimited → m.id = n.id → m = n) ∧
    (∀ (m n : MethodRef) (a : Offset), m.Delimited → n.Delimited →
      (block m a).id ≠ (placeholder n).id) ∧
    ∀ g : CallGraph, (∀ n ∈ g.nodes, n.method.Delimited) →
      (g.nodeList.map CallNode.id).Nodup ∧
      g.exportLines.Perm (g.calls.map fun c =>
        "\"" ++ c.source.id ++ "\" -> \"" ++ c.target.id ++ "\"") := by
  refine ⟨fun m n hm hn h => id_inj hm hn h, ?_, fun g hg => ⟨?_, ?_⟩⟩
  · intro m n a hm hn h
    cases id_inj (m := block m a) (n := placeholder n) hm hn h
  · rw [List.Nodup, List.pairwise_map]
    refine g.nodup_nodeList.imp_of_mem ?_
    intro m n hm hn hne h
    rw [g.consistent.mem_nodeList] at hm hn
    exact hne (id_inj (hg m hm) (hg n hn) h)
  · exact List.mergeSort_perm _ _

/-- A descriptor that ends with `@` lets the mark of a placeholder look like that of a block. -/
theorem identifiers_distinct_at_sign :
    MethodRef.Delimited ⟨"La;", "f", "()V"⟩ ∧ MethodRef.Delimited ⟨"La;", "f", "()V@"⟩ ∧
      (placeholder ⟨"La;", "f", "()V@"⟩).id = (block ⟨"La;", "f", "()V"⟩ .entry).id ++ "000" ∧
      (block ⟨"La;", "f", "()V"⟩ .entry).id ≠ (placeholder ⟨"La;", "f", "()V@"⟩).id := by
  have hplain : MethodRef.Delimited ⟨"La;", "f", "()V"⟩ :=
    ⟨⟨['L', 'a'], by decide, by decide⟩, by decide, by decide⟩
  have hsign : MethodRef.Delimited ⟨"La;", "f", "()V@"⟩ :=
    ⟨⟨['L', 'a'], by decide, by decide⟩, by decide, by decide⟩
  exact ⟨hplain, hsign, by decide, identifiers_distinct.2.1 _ _ _ hplain hsign⟩

end CallNode

end CallAtlas
