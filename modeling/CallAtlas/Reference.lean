import CallAtlas.Text
import Std.Data.ExtTreeMap

/-!
# References to methods and fields

Instructions name methods and fields by the class they are looked up on, a name, and a descriptor
or a type. A method reference also has a textual form `owner->name(parameters)result`, which
`MethodRef.parse` reads.

## Main definitions

* `MethodRef`, `FieldRef`: references, ordered by owner, then name, then descriptor or type
* `MethodRef.text`, `MethodRef.signature`, `FieldRef.text`: their written forms
* `MethodRef.parse`: the reference a text stands for
-/

namespace CallAtlas

/-- A method name and descriptor, looked up on a class. -/
structure MethodRef where
  owner : String
  name : String
  descriptor : String
deriving DecidableEq, Inhabited

/-- A field name and type, looked up on a class. -/
structure FieldRef where
  owner : String
  name : String
  type : String
deriving DecidableEq, Inhabited

/-- A text that is not of the form `owner->name(parameters)result`, without its outer blanks. -/
structure MalformedSignature where
  text : String
deriving DecidableEq

/-- The report of a malformed signature. -/
def MalformedSignature.message (e : MalformedSignature) : String :=
  "malformed method signature: " ++ e.text

namespace MethodRef

/-- The same method name and descriptor, looked up on another class. -/
def withOwner (m : MethodRef) (owner : String) : MethodRef := { m with owner }

/-- The text `owner->name(parameters)result` of a reference. -/
def text (m : MethodRef) : String := m.owner ++ "->" ++ m.name ++ m.descriptor

/-- Owner, name and descriptor without separator. -/
def signature (m : MethodRef) : String := m.owner ++ m.name ++ m.descriptor

@[simp] theorem withOwner_owner (m : MethodRef) (c : String) : (m.withOwner c).owner = c := rfl

@[simp] theorem withOwner_name (m : MethodRef) (c : String) : (m.withOwner c).name = m.name := rfl

@[simp] theorem withOwner_descriptor (m : MethodRef) (c : String) :
    (m.withOwner c).descriptor = m.descriptor := rfl

@[simp] theorem withOwner_withOwner (m : MethodRef) (c d : String) :
    (m.withOwner c).withOwner d = m.withOwner d := rfl

@[simp] theorem withOwner_self (m : MethodRef) : m.withOwner m.owner = m := rfl

instance : Ord MethodRef :=
  ⟨compareLex (compareOn owner) (compareLex (compareOn name) (compareOn descriptor))⟩

instance : Std.TransOrd MethodRef :=
  inferInstanceAs (Std.TransCmp
    (compareLex (compareOn owner) (compareLex (compareOn name) (compareOn descriptor))))

instance : Std.LawfulEqOrd MethodRef where
  eq_of_compare {a b} h := by
    obtain ⟨h₁, h⟩ := compareLex_eq_eq.mp h
    obtain ⟨h₂, h₃⟩ := compareLex_eq_eq.mp h
    cases a
    cases b
    simp only [compareOn, Std.LawfulEqOrd.compare_eq_iff_eq] at h₁ h₂ h₃
    simp [h₁, h₂, h₃]

/-- The characters before and after the first arrow `->`. -/
def breakArrow : List Char → Option (List Char × List Char)
  | [] => none
  | '-' :: '>' :: rest => some ([], rest)
  | c :: rest => (breakArrow rest).map fun (before, after) => (c :: before, after)

/-- The reference written as `cs`: an owner up to the first arrow, a name up to the next opening
parenthesis, and a descriptor. -/
def ofChars? (cs : List Char) : Option MethodRef :=
  match breakArrow cs with
  | none => none
  | some (owner, rest) =>
    let name := rest.takeWhile (· ≠ '(')
    let descriptor := rest.dropWhile (· ≠ '(')
    if owner = [] ∨ name = [] ∨ descriptor = [] then none
    else some ⟨String.ofList owner, String.ofList name, String.ofList descriptor⟩

/-- The reference a text stands for, once its outer blanks are removed. -/
def parse (s : String) : Except MalformedSignature MethodRef :=
  match ofChars? (Text.trimChars s.toList) with
  | some m => .ok m
  | none => .error ⟨Text.trim s⟩

end MethodRef

namespace FieldRef

/-- The text of a field reference: its type, then its owner and name. -/
def text (f : FieldRef) : String := f.type ++ " " ++ f.owner ++ "->" ++ f.name

instance : Ord FieldRef :=
  ⟨compareLex (compareOn owner) (compareLex (compareOn name) (compareOn type))⟩

instance : Std.TransOrd FieldRef :=
  inferInstanceAs (Std.TransCmp
    (compareLex (compareOn owner) (compareLex (compareOn name) (compareOn type))))

instance : Std.LawfulEqOrd FieldRef where
  eq_of_compare {a b} h := by
    obtain ⟨h₁, h⟩ := compareLex_eq_eq.mp h
    obtain ⟨h₂, h₃⟩ := compareLex_eq_eq.mp h
    cases a
    cases b
    simp only [compareOn, Std.LawfulEqOrd.compare_eq_iff_eq] at h₁ h₂ h₃
    simp [h₁, h₂, h₃]

end FieldRef

end CallAtlas
