import CallAtlas.Image
import CallAtlas.Json.Basic

/-!
# Images in JSON

Writing and reading images and their parts. A method body is read only if its layout has no fault.

## Main definitions

* `Image.toJson`, `Image.ofJson?`, and the same for every part of an image
-/

namespace CallAtlas

open Json (required optional withDefault)

/-- An offset is written as a number. -/
def Offset.toJson (a : Offset) : Json := .natural a.toNat

/-- The offset written as a 32-bit number. -/
def Offset.ofJson? (v : Json) : Option Offset := v.word32?.map Offset.mk

/-- A method reference is a record of its owner, name and descriptor. -/
def MethodRef.toJson (m : MethodRef) : Json :=
  .object [("class", .string m.owner), ("name", .string m.name),
    ("descriptor", .string m.descriptor)]

/-- The method reference that a value stands for. -/
def MethodRef.ofJson? (v : Json) : Option MethodRef :=
  match v.record? ["class", "name", "descriptor"] with
  | some [owner, name, descriptor] => do
    return ⟨← required Json.string? owner, ← required Json.string? name,
      ← required Json.string? descriptor⟩
  | _ => none

/-- A field reference is a record of its owner, name and type. -/
def FieldRef.toJson (f : FieldRef) : Json :=
  .object [("class", .string f.owner), ("name", .string f.name), ("type_", .string f.type)]

/-- The field reference that a value stands for. -/
def FieldRef.ofJson? (v : Json) : Option FieldRef :=
  match v.record? ["class", "name", "type_"] with
  | some [owner, name, type] => do
    return ⟨← required Json.string? owner, ← required Json.string? name,
      ← required Json.string? type⟩
  | _ => none

/-- An operation is an alternative with its operand as contents. -/
def Operation.toJson : Operation → Json
  | .goto target => .object [("Goto", target.toJson)]
  | .branch target => .object [("If", target.toJson)]
  | .switch targets => .object [("Switch", Json.ofList Offset.toJson targets)]
  | .return => .string "Return"
  | .throw => .string "Throw"
  | .invoke callee => .object [("Invoke", callee.toJson)]
  | .newInstance className => .object [("NewInstance", .string className)]
  | .constClass className => .object [("ConstClass", .string className)]
  | .fieldGet field => .object [("FieldGet", field.toJson)]
  | .fieldPut field => .object [("FieldPut", field.toJson)]
  | .constString value => .object [("ConstString", .string value)]
  | .other => .string "Other"
  | .invalid reason => .object [("Invalid", .string reason)]

/-- The operation that a value stands for. -/
def Operation.ofJson? (v : Json) : Option Operation := do
  let (name, contents) ← v.variant?
  match name with
  | "Goto" => (Offset.ofJson? contents).map .goto
  | "If" => (Offset.ofJson? contents).map .branch
  | "Switch" => (contents.list? Offset.ofJson?).map .switch
  | "Return" => contents.unit? .return
  | "Throw" => contents.unit? .throw
  | "Invoke" => (MethodRef.ofJson? contents).map .invoke
  | "NewInstance" => contents.string?.map .newInstance
  | "ConstClass" => contents.string?.map .constClass
  | "FieldGet" => (FieldRef.ofJson? contents).map .fieldGet
  | "FieldPut" => (FieldRef.ofJson? contents).map .fieldPut
  | "ConstString" => contents.string?.map .constString
  | "Other" => contents.unit? .other
  | "Invalid" => contents.string?.map .invalid
  | _ => none

/-- An instruction is a record of its position, length, operation and text. -/
def Instruction.toJson (i : Instruction) : Json :=
  .object [("addr", i.addr.toJson), ("length", .natural i.length.toNat),
    ("kind", i.operation.toJson), ("opcode", .string i.opcode), ("operands", .string i.operands)]

/-- The instruction that a value stands for. -/
def Instruction.ofJson? (v : Json) : Option Instruction :=
  match v.record? ["addr", "length", "kind", "opcode", "operands"] with
  | some [addr, length, operation, opcode, operands] => do
    return ⟨← required Offset.ofJson? addr, ← required Json.word32? length,
      ← required Operation.ofJson? operation, ← required Json.string? opcode,
      ← required Json.string? operands⟩
  | _ => none

/-- A handler is a record of its exception type and its offset. -/
def CatchClause.toJson (c : CatchClause) : Json :=
  .object [("type_name", Json.ofOption .string c.type), ("addr", c.handler.toJson)]

/-- The handler that a value stands for. -/
def CatchClause.ofJson? (v : Json) : Option CatchClause :=
  match v.record? ["type_name", "addr"] with
  | some [type, handler] => do
    return ⟨← optional Json.string? type, ← required Offset.ofJson? handler⟩
  | _ => none

/-- A protected range is a record of its ends and its handlers. -/
def TryRange.toJson (t : TryRange) : Json :=
  .object [("start", t.start.toJson), ("end", t.stop.toJson),
    ("handlers", Json.ofList CatchClause.toJson t.clauses)]

/-- The protected range that a value stands for. -/
def TryRange.ofJson? (v : Json) : Option TryRange :=
  match v.record? ["start", "end", "handlers"] with
  | some [start, stop, clauses] => do
    return ⟨← required Offset.ofJson? start, ← required Offset.ofJson? stop,
      ← required (Json.list? CatchClause.ofJson?) clauses⟩
  | _ => none

/-- A method body is a record of its instructions and its protected ranges. -/
def Code.toJson (code : Code) : Json :=
  .object [("instructions", Json.ofList Instruction.toJson code.instructions),
    ("tries", Json.ofList TryRange.toJson code.tries)]

/-- The method body that a value stands for; the protected ranges may be left out. -/
def Code.ofJson? (v : Json) : Option Code :=
  match v.shortRecord? ["instructions", "tries"] with
  | some [instructions, tries] => do
    let instructions ← required (Json.list? Instruction.ofJson?) instructions
    let tries ← withDefault [] (Json.list? TryRange.ofJson?) tries
    (Code.ofParts instructions tries).toOption
  | _ => none

/-- A method is a record of its name, descriptor and body. -/
def Method.toJson (m : Method) : Json :=
  .object [("name", .string m.name), ("descriptor", .string m.descriptor),
    ("code", Json.ofOption Code.toJson m.code)]

/-- The method that a value stands for. -/
def Method.ofJson? (v : Json) : Option Method :=
  match v.record? ["name", "descriptor", "code"] with
  | some [name, descriptor, code] => do
    return ⟨← required Json.string? name, ← required Json.string? descriptor,
      ← optional Code.ofJson? code⟩
  | _ => none

/-- A field is a record of its name and type. -/
def Field.toJson (f : Field) : Json :=
  .object [("name", .string f.name), ("type_", .string f.type)]

/-- The field that a value stands for. -/
def Field.ofJson? (v : Json) : Option Field :=
  match v.record? ["name", "type_"] with
  | some [name, type] => do
    return ⟨← required Json.string? name, ← required Json.string? type⟩
  | _ => none

/-- A class is a record of its name, superclass, interfaces, methods and fields. -/
def ClassDef.toJson (c : ClassDef) : Json :=
  .object [("name", .string c.name), ("superclass", Json.ofOption .string c.superclass),
    ("interfaces", Json.ofList .string c.interfaces),
    ("methods", Json.ofList Method.toJson c.methods),
    ("fields", Json.ofList Field.toJson c.fields)]

/-- The class that a value stands for. -/
def ClassDef.ofJson? (v : Json) : Option ClassDef :=
  match v.record? ["name", "superclass", "interfaces", "methods", "fields"] with
  | some [name, superclass, interfaces, methods, fields] => do
    return ⟨← required Json.string? name, ← optional Json.string? superclass,
      ← required (Json.list? Json.string?) interfaces,
      ← required (Json.list? Method.ofJson?) methods,
      ← required (Json.list? Field.ofJson?) fields⟩
  | _ => none

/-- The classes of an image are an object with one field for each key. -/
def Image.toJson (image : Image) : Json :=
  .object [("classes", .object (image.classes.toList.map fun (key, c) => (key, c.toJson)))]

/-- The classes filed by the fields of an object. -/
def Image.classesOfJson? : Json → Option (Std.ExtTreeMap String ClassDef)
  | .object fields => do
    let entries ← fields.mapM fun (key, v) => (ClassDef.ofJson? v).map (key, ·)
    return Std.ExtTreeMap.ofList entries
  | _ => none

/-- The image that a value stands for. -/
def Image.ofJson? (v : Json) : Option Image :=
  match v.record? ["classes"] with
  | some [classes] => (required Image.classesOfJson? classes).map Image.mk
  | _ => none

end CallAtlas
