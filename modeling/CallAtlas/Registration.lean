import CallAtlas.Reference
import CallAtlas.Text

/-!
# Callback registrations

A registration table tells which framework methods register a callback, which callback they
register, and where its implementation is found. Its text has one registration on each line, in the
form `registration#callback#position`.

## Main definitions

* `Position`: where the implementation of a callback is found
* `RegistrationTable`: the callbacks of each registration method, by position
* `RegistrationTable.parse`: the table a text describes, or its first faulty line
-/

namespace CallAtlas

/-- Where the implementation of a callback is found. -/
inductive Position where
  /-- On the class whose method makes the registration. -/
  | receiver
  /-- In an argument, so on any class below the owner of the callback. -/
  | argument (index : UInt32)
  /-- On any class below the named one. -/
  | type (name : String)
deriving DecidableEq, Inhabited

namespace Position

/-- The rank of a kind of position: receivers come first, named types last. -/
def rank : Position → Nat
  | receiver => 0
  | argument _ => 1
  | type _ => 2

/-- The index of an argument, zero for other positions. -/
def index : Position → UInt32
  | argument n => n
  | _ => 0

/-- The name of a type, empty for other positions. -/
def typeName : Position → String
  | type name => name
  | _ => ""

instance : Ord Position :=
  ⟨compareLex (compareOn rank) (compareLex (compareOn index) (compareOn typeName))⟩

instance : Std.TransOrd Position :=
  inferInstanceAs (Std.TransCmp
    (compareLex (compareOn rank) (compareLex (compareOn index) (compareOn typeName))))

instance : Std.LawfulEqOrd Position where
  eq_of_compare {a b} h := by
    obtain ⟨h₁, h⟩ := compareLex_eq_eq.mp h
    obtain ⟨h₂, h₃⟩ := compareLex_eq_eq.mp h
    simp only [compareOn, Std.LawfulEqOrd.compare_eq_iff_eq] at h₁ h₂ h₃
    cases a <;> cases b <;> simp_all [rank, index, typeName]

/-- The position a text stands for: zero is the receiver, any other 32-bit number an argument, and
anything else the name of a type. -/
def ofText (s : String) : Position :=
  match Text.readWord? s with
  | some n => if n = 0 then receiver else argument n
  | none => type s

end Position

/-- A line of a registration table. -/
structure Registration where
  registration : MethodRef
  position : Position
  callback : MethodRef
deriving DecidableEq, Inhabited

/-- What is wrong with a line. -/
inductive Registration.Fault where
  /-- The line does not have three fields. -/
  | fieldCount (found : Nat)
  /-- The first or second field is not a method signature. -/
  | signature (cause : MalformedSignature)
  /-- The third field is blank. -/
  | emptyPosition
deriving DecidableEq

/-- The report of a faulty line. -/
def Registration.Fault.message : Registration.Fault → String
  | fieldCount found => "expected 3 fields separated by '#', found " ++ Text.decimal found
  | signature cause => cause.message
  | emptyPosition => "empty callback position"

/-- A faulty line of a registration table; lines are counted from one. -/
structure RegistrationError where
  line : Nat
  fault : Registration.Fault
deriving DecidableEq

/-- The report of a faulty table. -/
def RegistrationError.message (e : RegistrationError) : String :=
  "registration table, line " ++ Text.decimal e.line ++ ": " ++ e.fault.message

namespace Registration

/-- The registration written on a line that is not blank: the number of fields is checked before
the registration method, the callback and the position. -/
def ofFields : List (List Char) → Except Fault Registration
  | [registration, callback, position] =>
    match MethodRef.parse (String.ofList registration) with
    | .error e => .error (.signature e)
    | .ok registration =>
      match MethodRef.parse (String.ofList callback) with
      | .error e => .error (.signature e)
      | .ok callback =>
        let position := Text.trimChars position
        if position = [] then .error .emptyPosition
        else .ok ⟨registration, .ofText (String.ofList position), callback⟩
  | fields => .error (.fieldCount fields.length)

/-- The registration written on a line, none when it is blank. -/
def ofLine (line : List Char) : Except Fault (Option Registration) :=
  match Text.trimChars line with
  | [] => .ok none
  | c :: cs => (ofFields (Text.fields '#' (c :: cs))).map some

/-- The registrations of the lines before the first faulty one, and that one; the first line has
number `n`. -/
def ofLines (n : Nat) : List (List Char) → List Registration × Option RegistrationError
  | [] => ([], none)
  | line :: lines =>
    match ofLine line with
    | .error fault => ([], some ⟨n, fault⟩)
    | .ok r =>
      let (rs, e) := ofLines (n + 1) lines
      (r.toList ++ rs, e)

/-- The registrations of a text up to its first faulty line, and that line. -/
def ofText (s : String) : List Registration × Option RegistrationError :=
  ofLines 1 (Text.lines s.toList)

end Registration

/-- The callbacks of each registration method, by position. -/
structure RegistrationTable where
  callbacks : Std.ExtTreeMap MethodRef (Std.ExtTreeMap Position MethodRef)

namespace RegistrationTable

/-- The table without registration. -/
def empty : RegistrationTable := ⟨∅⟩

instance : Inhabited RegistrationTable := ⟨empty⟩

/-- The callbacks of a registration method, by position. -/
def get? (t : RegistrationTable) (registration : MethodRef) :
    Option (Std.ExtTreeMap Position MethodRef) :=
  t.callbacks[registration]?

/-- The callback registered at a position. -/
def callback? (t : RegistrationTable) (registration : MethodRef) (position : Position) :
    Option MethodRef :=
  (t.get? registration).bind (·[position]?)

/-- Adds a registration, replacing the one of the same method and position. -/
def insert (t : RegistrationTable) (r : Registration) : RegistrationTable :=
  ⟨t.callbacks.insert r.registration
    ((t.callbacks.getD r.registration ∅).insert r.position r.callback)⟩

/-- The table of some registrations, in which later ones replace earlier ones. -/
def ofList (rs : List Registration) : RegistrationTable := rs.foldl insert empty

/-- The number of registration methods. -/
def size (t : RegistrationTable) : Nat := t.callbacks.size

/-- Whether there is no registration. -/
def isEmpty (t : RegistrationTable) : Bool := t.callbacks.isEmpty

/-- The table a text describes, or its first faulty line. -/
def parse (s : String) : Except RegistrationError RegistrationTable :=
  match Registration.ofText s with
  | (rs, none) => .ok (ofList rs)
  | (_, some e) => .error e

end RegistrationTable

end CallAtlas
