/-!
# JSON values

Values are exchanged in JSON. A record is read from an object, whose unknown fields are ignored and
whose known fields occur once, or from an array that lists its fields in order; an alternative is
read from its name, or from an object whose only field is its name.

## Main definitions

* `Json`: a JSON value
* `Json.record?`, `Json.shortRecord?`: the fields of a record
* `Json.required`, `Json.optional`, `Json.withDefault`: reading a field
* `Json.variant?`: the name and contents of an alternative
-/

namespace CallAtlas

/-- A JSON value. -/
inductive Json where
  | null
  | bool (value : Bool)
  /-- A number written as a natural number. -/
  | natural (value : Nat)
  /-- Any other number, as written. -/
  | number (text : String)
  | string (value : String)
  | array (items : List Json)
  | object (fields : List (String × Json))
deriving Inhabited

namespace Json

variable {α : Type}

/-- The value of a text. -/
def string? : Json → Option String
  | string s => some s
  | _ => none

/-- The value of a truth value. -/
def bool? : Json → Option Bool
  | bool b => some b
  | _ => none

/-- The value of a natural number. -/
def natural? : Json → Option Nat
  | natural n => some n
  | _ => none

/-- The 32-bit word written as a natural number. -/
def word32? (v : Json) : Option UInt32 :=
  v.natural?.bind fun n => if n < UInt32.size then some (UInt32.ofNat n) else none

/-- The 64-bit word written as a natural number. -/
def word64? (v : Json) : Option UInt64 :=
  v.natural?.bind fun n => if n < UInt64.size then some (UInt64.ofNat n) else none

/-- The items of an array, each read by `read`. -/
def list? (read : Json → Option α) : Json → Option (List α)
  | array items => items.mapM read
  | _ => none

/-- A value that may be null. -/
def nullable? (read : Json → Option α) : Json → Option (Option α)
  | null => some none
  | v => (read v).map some

/-- The value of the field with a name, if there is one; an object that has two is refused. -/
def slot? (fields : List (String × Json)) (name : String) : Option (Option Json) :=
  match fields.filter fun field => field.1 == name with
  | [] => some none
  | [field] => some (some field.2)
  | _ => none

/-- The values of the named fields of a record: an object may lack some of them, an array has
exactly all of them. -/
def record? (names : List String) : Json → Option (List (Option Json))
  | object fields => names.mapM (slot? fields)
  | array items => if items.length = names.length then some (items.map some) else none
  | _ => none

/-- The values of the named fields of a record of which the last ones may be missing, from an array
as well. -/
def shortRecord? (names : List String) : Json → Option (List (Option Json))
  | object fields => names.mapM (slot? fields)
  | array items =>
    if items.length ≤ names.length then
      some (items.map some ++ List.replicate (names.length - items.length) none)
    else none
  | _ => none

/-- A field that must be there. -/
def required (read : Json → Option α) (slot : Option Json) : Option α := slot.bind read

/-- A field that may be missing or null. -/
def optional (read : Json → Option α) : Option Json → Option (Option α)
  | none => some none
  | some v => nullable? read v

/-- A field that has a value when it is missing. -/
def withDefault (value : α) (read : Json → Option α) : Option Json → Option α
  | none => some value
  | some v => read v

/-- The name and the contents of an alternative; the name alone stands for null contents. -/
def variant? : Json → Option (String × Json)
  | string name => some (name, null)
  | object [(name, contents)] => some (name, contents)
  | _ => none

/-- The alternative without contents. -/
def unit? (value : α) : Json → Option α
  | null => some value
  | _ => none

/-- The value, or null. -/
def ofOption (write : α → Json) : Option α → Json
  | none => null
  | some a => write a

/-- The array of some values. -/
def ofList (write : α → Json) (xs : List α) : Json := array (xs.map write)

end Json

end CallAtlas
