import CallAtlas.Proofs.Hierarchy
import CallAtlas.Proofs.Texts
import CallAtlas.Registration

/-!
# Reading registration tables

A table is read line by line. A line is blank, or it gives a registration, or it has a fault, and
its fields decide which: their number is looked at first, then the registration method, the callback
and the position. The text is a table exactly if no line has a fault, and the first line with one is
reported otherwise. In the table, the callback of a method and a position is that of the last line
that gives the two; positions are the same if they have the same value, however it is written.

## Main definitions

* `Position.Denotes cs p`: the text `cs` stands for the position `p`
* `Registration.Cut line fs`: the fields of a line that is not blank
* `Registration.MadeOf fs r`, `Registration.FaultOf fs f`: what fields come to
* `Registration.Gives line r`, `Registration.Faulty line f`: what a line comes to
* `Registration.FirstFaulty n ls e`: the first line with a fault

## Main results

* `Position.ofText_eq_iff`: reading a position
* `Registration.ofLine_eq_some_iff`, `Registration.ofLine_eq_error_iff`: reading a line
* `Registration.ofLines_snd_eq_some_iff`: the fault that is reported
* `RegistrationTable.callback?_ofList`: the last registration of a method and a position
* `RegistrationTable.parse_lines`: reading a table
-/

namespace CallAtlas

/-! ## Positions -/

namespace Position

/-- A numeral for zero stands for the receiver, one for any other word for an argument, and any
other text for the type of that name. -/
inductive Denotes (cs : List Char) : Position → Prop where
  | receiver (h : Text.IsNumeral cs 0) : Denotes cs receiver
  | argument {n : UInt32} (hn : n ≠ 0) (h : Text.IsNumeral cs n.toNat) : Denotes cs (argument n)
  | type (h : ∀ n ≤ 4294967295, ¬ Text.IsNumeral cs n) : Denotes cs (type (String.ofList cs))

theorem denotes_ofText (cs : List Char) : Denotes cs (ofText (String.ofList cs)) := by
  rw [ofText]
  split
  · next n hn =>
    have hnumeral := Text.readWord?_eq_some_iff.mp hn
    rw [String.toList_ofList] at hnumeral
    split
    · next hzero =>
      subst hzero
      exact .receiver hnumeral
    · next hzero => exact .argument hzero hnumeral
  · next hnone =>
    have hword := Text.readWord?_eq_none_iff.mp hnone
    rw [String.toList_ofList] at hword
    exact .type hword

/-- **Reading a position**: a text stands for one position. -/
theorem ofText_eq_iff {cs : List Char} {p : Position} :
    ofText (String.ofList cs) = p ↔ Denotes cs p := by
  constructor
  · rintro rfl
    exact denotes_ofText cs
  · intro h
    have hread : ∀ w : UInt32, Text.IsNumeral cs w.toNat →
        Text.readWord? (String.ofList cs) = some w := by
      intro w hw
      rw [Text.readWord?_eq_some_iff, String.toList_ofList]
      exact hw
    rw [ofText]
    cases h with
    | receiver h =>
      rw [hread 0 h]
      rfl
    | argument hn h =>
      rw [hread _ h]
      exact if_neg hn
    | type h =>
      have hnone : Text.readWord? (String.ofList cs) = none := by
        rw [Text.readWord?_eq_none_iff, String.toList_ofList]
        exact h
      rw [hnone]

end Position

/-! ## Lines -/

namespace Registration

variable {line : List Char} {fs ls : List (List Char)} {r : Registration} {f : Fault} {n : Nat}
  {e : RegistrationError}

/-- The fields of a line that is not blank. -/
def Cut (line : List Char) (fs : List (List Char)) : Prop :=
  ∃ t, Text.IsTrim line t ∧ t ≠ [] ∧ Text.IsFields '#' t fs

/-- Fields that make a registration: two signatures and a position that is not blank. -/
inductive MadeOf : List (List Char) → Registration → Prop where
  | intro {a b c d : List Char} {registration callback : MethodRef} {position : Position}
      (ha : MethodRef.parse (String.ofList a) = .ok registration)
      (hb : MethodRef.parse (String.ofList b) = .ok callback) (hc : Text.IsTrim c d) (hd : d ≠ [])
      (hposition : position.Denotes d) : MadeOf [a, b, c] ⟨registration, position, callback⟩

/-- The fault of some fields: what is checked first comes first. -/
inductive FaultOf : List (List Char) → Fault → Prop where
  | fieldCount {fs : List (List Char)} (h : fs.length ≠ 3) : FaultOf fs (.fieldCount fs.length)
  | registration {a b c : List Char} {e : MalformedSignature}
      (ha : MethodRef.parse (String.ofList a) = .error e) : FaultOf [a, b, c] (.signature e)
  | callback {a b c : List Char} {m : MethodRef} {e : MalformedSignature}
      (ha : MethodRef.parse (String.ofList a) = .ok m)
      (hb : MethodRef.parse (String.ofList b) = .error e) : FaultOf [a, b, c] (.signature e)
  | emptyPosition {a b c : List Char} {m n : MethodRef}
      (ha : MethodRef.parse (String.ofList a) = .ok m)
      (hb : MethodRef.parse (String.ofList b) = .ok n) (hc : Text.IsTrim c []) :
      FaultOf [a, b, c] .emptyPosition

/-- A line gives a registration. -/
def Gives (line : List Char) (r : Registration) : Prop := ∃ fs, Cut line fs ∧ MadeOf fs r

/-- A line has a fault. -/
def Faulty (line : List Char) (f : Fault) : Prop := ∃ fs, Cut line fs ∧ FaultOf fs f

/-- Fields make a registration or have a fault. -/
theorem madeOf_or_faultOf (fs : List (List Char)) : (∃ r, MadeOf fs r) ∨ ∃ f, FaultOf fs f := by
  fun_cases ofFields fs with
  | case1 a b c e ha => exact .inr ⟨_, .registration ha⟩
  | case2 a b c m ha e hb => exact .inr ⟨_, .callback ha hb⟩
  | case3 a b c m ha n hb d hd =>
    exact .inr ⟨_, .emptyPosition ha hb (Text.trimChars_eq_iff.mp hd)⟩
  | case4 a b c m ha n hb d hd =>
    exact .inl ⟨_, .intro ha hb (Text.isTrim_trimChars c) hd (Position.denotes_ofText d)⟩
  | case5 fs hfs =>
    refine .inr ⟨_, .fieldCount ?_⟩
    intro hlength
    obtain ⟨a, b, c, rfl⟩ := List.length_eq_three.mp hlength
    exact hfs a b c rfl

theorem MadeOf.ofFields_eq (h : MadeOf fs r) : ofFields fs = .ok r := by
  obtain ⟨ha, hb, hc, hd, hposition⟩ := h
  obtain rfl := hc.trimChars_eq
  simp only [ofFields, ha, hb, if_neg hd, Position.ofText_eq_iff.mpr hposition]

theorem FaultOf.ofFields_eq (h : FaultOf fs f) : ofFields fs = .error f := by
  cases h with
  | fieldCount hlength =>
    rw [ofFields]
    rintro a b c rfl
    exact hlength rfl
  | registration ha => simp only [ofFields, ha]
  | callback ha hb => simp only [ofFields, ha, hb]
  | emptyPosition ha hb hc => simp only [ofFields, ha, hb, if_pos hc.trimChars_eq]

theorem Cut.ofLine_eq (h : Cut line fs) : ofLine line = (ofFields fs).map some := by
  obtain ⟨t, ht, hne, hfs⟩ := h
  rw [ofLine, ht.trimChars_eq, ← Text.fields_eq_iff.mpr hfs]
  cases t with
  | nil => exact absurd rfl hne
  | cons c t => rfl

theorem Gives.ofLine_eq (h : Gives line r) : ofLine line = .ok (some r) := by
  obtain ⟨fs, hcut, hmade⟩ := h
  rw [hcut.ofLine_eq, hmade.ofFields_eq]
  rfl

theorem Faulty.ofLine_eq (h : Faulty line f) : ofLine line = .error f := by
  obtain ⟨fs, hcut, hfault⟩ := h
  rw [hcut.ofLine_eq, hfault.ofFields_eq]
  rfl

/-- **Reading a line**: it is blank, or gives a registration, or has a fault. -/
theorem ofLine_outcome (line : List Char) :
    (Text.IsTrim line [] ∧ ofLine line = .ok none) ∨ (∃ r, Gives line r) ∨ ∃ f, Faulty line f := by
  have htrim := Text.isTrim_trimChars line
  cases hline : Text.trimChars line with
  | nil =>
    rw [hline] at htrim
    refine .inl ⟨htrim, ?_⟩
    rw [ofLine, hline]
  | cons c t =>
    rw [hline] at htrim
    have hcut : Cut line (Text.fields '#' (c :: t)) :=
      ⟨c :: t, htrim, List.cons_ne_nil c t, Text.fields_eq_iff.mp rfl⟩
    rcases madeOf_or_faultOf (Text.fields '#' (c :: t)) with ⟨r, hmade⟩ | ⟨f, hfault⟩
    · exact .inr (.inl ⟨r, _, hcut, hmade⟩)
    · exact .inr (.inr ⟨f, _, hcut, hfault⟩)

theorem ofLine_eq_some_iff : ofLine line = .ok (some r) ↔ Gives line r := by
  constructor
  · intro h
    rcases ofLine_outcome line with ⟨-, hblank⟩ | ⟨r', hgives⟩ | ⟨f, hfault⟩
    · cases hblank.symm.trans h
    · cases hgives.ofLine_eq.symm.trans h
      exact hgives
    · cases hfault.ofLine_eq.symm.trans h
  · exact Gives.ofLine_eq

theorem ofLine_eq_error_iff : ofLine line = .error f ↔ Faulty line f := by
  constructor
  · intro h
    rcases ofLine_outcome line with ⟨-, hblank⟩ | ⟨r, hgives⟩ | ⟨f', hfault⟩
    · cases hblank.symm.trans h
    · cases hgives.ofLine_eq.symm.trans h
    · cases hfault.ofLine_eq.symm.trans h
      exact hfault
  · exact Faulty.ofLine_eq

theorem not_faulty_of_ofLine {r : Option Registration} (h : ofLine line = .ok r) (f : Fault) :
    ¬ Faulty line f := by
  intro hfault
  cases h.symm.trans hfault.ofLine_eq

/-- A line has no fault exactly if it is blank, or has three fields, of which the first two are
signatures and the third is not blank. -/
theorem forall_not_faulty_iff :
    (∀ f, ¬ Faulty line f) ↔
      (¬ Text.IsTrim line [] →
        ∃ a b c, Cut line [a, b, c] ∧ (∃ m, MethodRef.parse (String.ofList a) = .ok m) ∧
          (∃ m, MethodRef.parse (String.ofList b) = .ok m) ∧ ¬ Text.IsTrim c []) := by
  constructor
  · intro hsound hline
    rcases ofLine_outcome line with ⟨hblank, -⟩ | ⟨r, fs, hcut, hmade⟩ | ⟨f, hfault⟩
    · exact absurd hblank hline
    · obtain @⟨a, b, c, d, m, n, p, ha, hb, hc, hd, -⟩ := hmade
      refine ⟨a, b, c, hcut, ⟨m, ha⟩, ⟨n, hb⟩, fun hblank => hd ?_⟩
      exact hc.trimChars_eq.symm.trans hblank.trimChars_eq
    · exact absurd hfault (hsound f)
  · intro h f hfault
    by_cases hline : Text.IsTrim line []
    · obtain ⟨fs, ⟨t, ht, hne, -⟩, -⟩ := hfault
      exact hne (ht.trimChars_eq.symm.trans hline.trimChars_eq)
    · obtain ⟨a, b, c, hcut, ⟨m, ha⟩, ⟨n, hb⟩, hc⟩ := h hline
      have hgives : Gives line ⟨m, .ofText (String.ofList (Text.trimChars c)), n⟩ :=
        ⟨_, hcut, .intro ha hb (Text.isTrim_trimChars c) (fun h => hc (Text.trimChars_eq_iff.mp h))
          (Position.denotes_ofText _)⟩
      exact not_faulty_of_ofLine hgives.ofLine_eq f hfault

/-! ## All lines -/

/-- `e` reports the first line with a fault, where the lines are counted from `n`. -/
def FirstFaulty (n : Nat) (ls : List (List Char)) (e : RegistrationError) : Prop :=
  ∃ before line after, ls = before ++ line :: after ∧ e.line = n + before.length ∧
    Faulty line e.fault ∧ ∀ earlier ∈ before, ∀ f, ¬ Faulty earlier f

theorem firstFaulty_cons_of_faulty (hline : Faulty line f) :
    FirstFaulty n (line :: ls) e ↔ ⟨n, f⟩ = e := by
  constructor
  · rintro ⟨before, line', after, hsplit, hnumber, hfault, hbefore⟩
    cases before with
    | nil =>
      obtain ⟨rfl, rfl⟩ := List.cons.inj hsplit
      have hsame : Except.error f = .error e.fault := hline.ofLine_eq.symm.trans hfault.ofLine_eq
      exact congrArg₂ RegistrationError.mk hnumber.symm (Except.error.inj hsame)
    | cons first before =>
      obtain ⟨rfl, -⟩ := List.cons.inj hsplit
      exact absurd hline (hbefore line List.mem_cons_self f)
  · rintro rfl
    exact ⟨[], line, ls, rfl, rfl, hline, by simp⟩

theorem firstFaulty_cons_of_forall_not_faulty (hline : ∀ f, ¬ Faulty line f) :
    FirstFaulty n (line :: ls) e ↔ FirstFaulty (n + 1) ls e := by
  constructor
  · rintro ⟨before, line', after, hsplit, hnumber, hfault, hbefore⟩
    cases before with
    | nil =>
      obtain ⟨rfl, -⟩ := List.cons.inj hsplit
      exact absurd hfault (hline _)
    | cons first before =>
      obtain ⟨rfl, rfl⟩ := List.cons.inj hsplit
      refine ⟨before, line', after, rfl, ?_, hfault, (List.forall_mem_cons.mp hbefore).2⟩
      rw [hnumber, List.length_cons]
      omega
  · rintro ⟨before, line', after, rfl, hnumber, hfault, hbefore⟩
    refine ⟨line :: before, line', after, rfl, ?_, hfault, ?_⟩
    · rw [hnumber, List.length_cons]
      omega
    · exact List.forall_mem_cons.mpr ⟨hline, hbefore⟩

/-- **The first line with a fault** is reported, with its number. -/
theorem ofLines_snd_eq_some_iff : (ofLines n ls).2 = some e ↔ FirstFaulty n ls e := by
  fun_induction ofLines n ls with
  | case1 => simp [FirstFaulty]
  | case2 n line ls f hline =>
    rw [firstFaulty_cons_of_faulty (ofLine_eq_error_iff.mp hline)]
    exact Option.some_inj
  | case3 n line ls r hline rs e' hrest ih =>
    rw [firstFaulty_cons_of_forall_not_faulty (not_faulty_of_ofLine hline), ← ih, hrest]

theorem forall_not_faulty_of_ofLines (h : (ofLines n ls).2 = none) :
    ∀ line ∈ ls, ∀ f, ¬ Faulty line f := by
  fun_induction ofLines n ls with
  | case1 => simp
  | case2 n line ls f hline => cases h
  | case3 n line ls r hline rs e hrest ih =>
    rw [hrest] at ih
    exact List.forall_mem_cons.mpr ⟨not_faulty_of_ofLine hline, ih h⟩

/-- The registration that a line gives, if any. -/
def given? (line : List Char) : Option Registration := (ofLine line).toOption.join

theorem given?_eq_some_iff : given? line = some r ↔ Gives line r := by
  rw [← ofLine_eq_some_iff, given?]
  cases ofLine line <;> simp [Except.toOption]

/-- Without a fault, the registrations are those of the lines, in order. -/
theorem ofLines_of_forall_not_faulty (h : ∀ line ∈ ls, ∀ f, ¬ Faulty line f) :
    ofLines n ls = (ls.filterMap given?, none) := by
  induction ls generalizing n with
  | nil => rfl
  | cons line ls ih =>
    obtain ⟨hline, hrest⟩ := List.forall_mem_cons.mp h
    rw [ofLines]
    cases hof : ofLine line with
    | error f => exact absurd (ofLine_eq_error_iff.mp hof) (hline f)
    | ok r =>
      have hgiven : given? line = r := by rw [given?, hof]; rfl
      simp only [ih hrest, List.filterMap_cons, hgiven]
      cases r <;> rfl

end Registration

/-! ## Tables -/

namespace RegistrationTable

theorem callbacks_foldl_insert (rs : List Registration) (t : RegistrationTable) :
    (rs.foldl insert t).callbacks =
      rs.foldl (fun m r => m.insert r.registration
        ((m.getD r.registration ∅).insert r.position r.callback)) t.callbacks := by
  induction rs generalizing t with
  | nil => rfl
  | cons r rs ih => exact ih (t.insert r)

theorem callback?_eq_getElem? (t : RegistrationTable) (m : MethodRef) (p : Position) :
    t.callback? m p = (t.callbacks.getD m ∅)[p]? := by
  rw [callback?, get?, Std.ExtTreeMap.getD_eq_getD_getElem?]
  cases t.callbacks[m]? <;> simp

/-- **The last registration** of a method and a position is the one in the table. -/
theorem callback?_ofList (rs : List Registration) (m : MethodRef) (p : Position) :
    (ofList rs).callback? m p =
      (rs.reverse.find? fun r => r.registration = m ∧ r.position = p).map (·.callback) := by
  have hown : (ofList rs).callbacks.getD m ∅ =
      (rs.filter (·.registration = m)).foldl (fun c r => c.insert r.position r.callback) ∅ := by
    rw [ofList, callbacks_foldl_insert]
    exact getD_foldl_insert_getD Registration.registration
      (fun c r => Std.ExtTreeMap.insert c r.position r.callback) ∅ rs ∅ m
  rw [callback?_eq_getElem?, hown, getElem?_foldl_insert, ← List.filter_reverse, List.find?_filter]
  simp

theorem mem_callbacks_foldl_insert {m : MethodRef} (rs : List Registration)
    (t : RegistrationTable) :
    m ∈ (rs.foldl insert t).callbacks ↔ m ∈ t.callbacks ∨ ∃ r ∈ rs, r.registration = m := by
  induction rs generalizing t with
  | nil => simp
  | cons r rs ih =>
    rw [List.foldl_cons, ih, insert, Std.ExtTreeMap.mem_insert, Std.LawfulEqOrd.compare_eq_iff_eq,
      List.exists_mem_cons_iff, ← or_assoc]
    exact or_congr_left or_comm

theorem isSome_get?_ofList (rs : List Registration) (m : MethodRef) :
    ((ofList rs).get? m).isSome = true ↔ ∃ r ∈ rs, r.registration = m := by
  rw [get?, ← Std.ExtTreeMap.mem_iff_isSome_getElem?, ofList, mem_callbacks_foldl_insert]
  simp [empty]

/-- The callback of the last line that gives a registration of the method at the position. -/
theorem callback?_ofList_filterMap {ls : List (List Char)} {m callback : MethodRef}
    {p : Position} :
    (ofList (ls.filterMap Registration.given?)).callback? m p = some callback ↔
      ∃ before line after, ls = before ++ line :: after ∧
        Registration.Gives line ⟨m, p, callback⟩ ∧
        ∀ later ∈ after, ∀ c, ¬ Registration.Gives later ⟨m, p, c⟩ := by
  have hgives : ∀ line, (Registration.given? line).any
      (fun r => decide (r.registration = m ∧ r.position = p)) = true ↔
        ∃ c, Registration.Gives line ⟨m, p, c⟩ := by
    intro line
    simp only [Option.any_eq_true, Registration.given?_eq_some_iff, decide_eq_true_eq]
    constructor
    · rintro ⟨⟨m', p', c⟩, hline, rfl, rfl⟩
      exact ⟨c, hline⟩
    · rintro ⟨c, hline⟩
      exact ⟨⟨m, p, c⟩, hline, rfl, rfl⟩
  rw [callback?_ofList, ← List.filterMap_reverse, List.find?_filterMap, Option.map_eq_some_iff]
  simp only [Option.bind_eq_some_iff, find?_reverse_eq_some_iff, Registration.given?_eq_some_iff,
    ← Bool.not_eq_true, hgives, not_exists]
  constructor
  · rintro ⟨⟨m', p', c'⟩, ⟨line, ⟨⟨c, hline⟩, before, after, hsplit, hafter⟩, hline'⟩, rfl⟩
    cases hline.ofLine_eq.symm.trans hline'.ofLine_eq
    exact ⟨before, line, after, hsplit, hline, hafter⟩
  · rintro ⟨before, line, after, hsplit, hline, hafter⟩
    exact ⟨_, ⟨line, ⟨⟨callback, hline⟩, before, after, hsplit, hafter⟩, hline⟩, rfl⟩

theorem parse_of_forall_not_faulty {s : String}
    (h : ∀ line ∈ Text.lines s.toList, ∀ f, ¬ Registration.Faulty line f) :
    parse s = .ok (ofList ((Text.lines s.toList).filterMap Registration.given?)) := by
  rw [parse, Registration.ofText, Registration.ofLines_of_forall_not_faulty h]

theorem forall_not_faulty_of_parse {s : String} {t : RegistrationTable} (h : parse s = .ok t) :
    ∀ line ∈ Text.lines s.toList, ∀ f, ¬ Registration.Faulty line f := by
  apply Registration.forall_not_faulty_of_ofLines (n := 1)
  rw [parse, Registration.ofText] at h
  split at h
  · next rs hof => rw [hof]
  · cases h

theorem parse_eq_error_iff {s : String} {e : RegistrationError} :
    parse s = .error e ↔ (Registration.ofLines 1 (Text.lines s.toList)).2 = some e := by
  rw [parse, Registration.ofText]
  rcases Registration.ofLines 1 (Text.lines s.toList) with ⟨rs, _ | e'⟩ <;> simp

/-- **Reading a table.** A text is a table exactly if each of its lines that is not blank has three
fields, the first two of which are signatures and the third of which is not blank. In the table, the
callback of a method and a position is that of the last line that gives one for the two, and no other
method has an entry. Otherwise the first line with a fault is reported, counted from one with the
blank lines, and the first of its checks that fails: the number of fields, the registration method,
the callback, the position. -/
theorem parse_lines (s : String) :
    ∃ lines, (∀ ls, Text.Lines s.toList ls ↔ lines = ls) ∧
      ((∃ t, parse s = .ok t) ↔
        ∀ line ∈ lines, ¬ Text.IsTrim line [] →
          ∃ a b c, Registration.Cut line [a, b, c] ∧
            (∃ m, MethodRef.parse (String.ofList a) = .ok m) ∧
            (∃ m, MethodRef.parse (String.ofList b) = .ok m) ∧ ¬ Text.IsTrim c []) ∧
      (∀ t, parse s = .ok t →
        (∀ m p callback, t.callback? m p = some callback ↔
          ∃ before line after, lines = before ++ line :: after ∧
            Registration.Gives line ⟨m, p, callback⟩ ∧
            ∀ later ∈ after, ∀ c, ¬ Registration.Gives later ⟨m, p, c⟩) ∧
        ∀ m, (t.get? m).isSome = true ↔
          ∃ line ∈ lines, ∃ p callback, Registration.Gives line ⟨m, p, callback⟩) ∧
      ∀ e, parse s = .error e ↔
        ∃ before line after, lines = before ++ line :: after ∧ e.line = before.length + 1 ∧
          Registration.Faulty line e.fault ∧
          ∀ earlier ∈ before, ∀ f, ¬ Registration.Faulty earlier f := by
  refine ⟨Text.lines s.toList, fun ls => Text.lines_eq_iff.symm, ?_, fun t ht => ?_, fun e => ?_⟩
  · simp only [← Registration.forall_not_faulty_iff]
    constructor
    · rintro ⟨t, ht⟩
      exact forall_not_faulty_of_parse ht
    · intro h
      exact ⟨_, parse_of_forall_not_faulty h⟩
  · have hparse := parse_of_forall_not_faulty (forall_not_faulty_of_parse ht)
    obtain rfl := Except.ok.inj (ht.symm.trans hparse)
    refine ⟨fun m p callback => callback?_ofList_filterMap, fun m => ?_⟩
    rw [isSome_get?_ofList]
    simp only [List.mem_filterMap, Registration.given?_eq_some_iff]
    constructor
    · rintro ⟨⟨m', p, c⟩, ⟨line, hline, hgives⟩, rfl⟩
      exact ⟨line, hline, p, c, hgives⟩
    · rintro ⟨line, hline, p, c, hgives⟩
      exact ⟨⟨m, p, c⟩, ⟨line, hline, hgives⟩, rfl⟩
  · rw [parse_eq_error_iff, Registration.ofLines_snd_eq_some_iff, Registration.FirstFaulty]
    simp only [Nat.add_comm 1]

end RegistrationTable

end CallAtlas
