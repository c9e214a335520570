import CallAtlas.CallGraph.Stats
import CallAtlas.Json.Image
import CallAtlas.Options
import CallAtlas.Xref

/-!
# Options and results in JSON

## Main definitions

* `Options.toJson`, `Options.ofJson?`, `Component.toJson`, `Component.ofJson?`: options
* `CallNode.toJson`, `Stats.toJson`, `ComponentTable.toJson`, `XrefIndex.toJson?`: results
-/

namespace CallAtlas

open Json (required withDefault)

/-- The name of a kind of call. -/
def CallKind.label : CallKind → String
  | .direct => "Direct"
  | .virtual => "VirtualResolved"
  | .framework => "FrameworkBridge"
  | .callback => "ImplicitCallback"
  | .lifecycle => "Lifecycle"

/-- A kind of call is written as its name. -/
def CallKind.toJson (k : CallKind) : Json := .string k.label

/-- A step inside a method is written as its name, a call with its kind. -/
def StepKind.toJson : StepKind → Json
  | .intra => .string "Intra"
  | .inter kind => .object [("Inter", kind.toJson)]

/-- A kind of inheritance is written as its name. -/
def Inheritance.toJson : Inheritance → Json
  | .extends => .string "Extends"
  | .implements => .string "Implements"

/-- A kind of usage is written as its name. -/
def UsageKind.toJson : UsageKind → Json
  | .instantiation => .string "Instantiation"
  | .typeUsage => .string "TypeUsage"
  | .call => .string "Call"

/-- A mode of access is written as its name. -/
def AccessMode.toJson : AccessMode → Json
  | .read => .string "Read"
  | .write => .string "Write"

/-- A kind of component is written as its name. -/
def ComponentKind.toJson : ComponentKind → Json
  | .activity => .string "Activity"
  | .service => .string "Service"
  | .receiver => .string "Receiver"

/-- The kind of component that a value stands for. -/
def ComponentKind.ofJson? (v : Json) : Option ComponentKind := do
  let (name, contents) ← v.variant?
  match name with
  | "Activity" => contents.unit? .activity
  | "Service" => contents.unit? .service
  | "Receiver" => contents.unit? .receiver
  | _ => none

/-- A component is a record of its class and kind. -/
def Component.toJson (c : Component) : Json :=
  .object [("class", .string c.className), ("kind", c.kind.toJson)]

/-- The component that a value stands for. -/
def Component.ofJson? (v : Json) : Option Component :=
  match v.record? ["class", "kind"] with
  | some [className, kind] => do
    return ⟨← required Json.string? className, ← required ComponentKind.ofJson? kind⟩
  | _ => none

/-- A node is an alternative: a block with its method and start, or a placeholder. -/
def CallNode.toJson : CallNode → Json
  | .block m start => .object [("Block", .array [m.toJson, start.toJson])]
  | .placeholder m => .object [("Placeholder", m.toJson)]

/-- Statistics are a record of counters. -/
def Stats.toJson (s : Stats) : Json :=
  .object [("nb_nodes", .natural s.nodes), ("nb_edges", .natural s.calls),
    ("nb_placeholders", .natural s.placeholders),
    ("edges_per_kind", .object (s.perKind.map fun (kind, count) =>
      (kind.label, .natural count)))]

/-- A table of components is an object with one field for each class. -/
def ComponentTable.toJson (t : ComponentTable) : Json :=
  .object [("components", .object (t.toList.map fun c => (c.className, c.kind.toJson)))]

/-- The use of a class is a record. -/
def ClassUsage.toJson (u : ClassUsage) : Json :=
  .object [("user", .string u.user), ("used", .string u.used), ("method", u.method.toJson),
    ("site", u.site.toJson), ("kind", u.kind.toJson)]

/-- The access to a field is a record. -/
def FieldAccess.toJson (a : FieldAccess) : Json :=
  .object [("method", a.method.toJson), ("site", a.site.toJson), ("field", a.field.toJson),
    ("access", a.mode.toJson)]

/-- The index in JSON; none when it has records of methods, since methods are not texts and cannot
name the fields of an object. -/
def XrefIndex.toJson? (x : XrefIndex) : Option Json :=
  if !x.methods.isEmpty then none
  else some (.object
    [("classes", Json.ofList ClassUsage.toJson x.usages.toList),
      ("fields", Json.ofList FieldAccess.toJson x.accesses.toList),
      ("strings", .object (x.strings.toList.map fun (value, methods) =>
        (value, Json.ofList (fun m => .array [.string m.owner, m.toJson]) methods.toList))),
      ("methods", .object [])])

/-- Options are a record. -/
def Options.toJson (o : Options) : Json :=
  .object [("framework_prefixes", Json.ofList .string o.frameworkPrefixes),
    ("registrations", Json.ofOption .string o.registrationFile),
    ("skip_xrefs", .bool o.skipXrefs),
    ("components", Json.ofList Component.toJson o.declaredComponents),
    ("skip_component_inference", .bool o.skipInference),
    ("filter_class", Json.ofOption .string o.classPattern),
    ("filter_method", Json.ofOption .string o.methodPattern),
    ("jobs", Json.ofOption (fun n => .natural n.toNat) o.jobs)]

/-- The options that a value stands for; missing ones have their default. -/
def Options.ofJson? (v : Json) : Option Options :=
  match v.shortRecord? ["framework_prefixes", "registrations", "skip_xrefs", "components",
    "skip_component_inference", "filter_class", "filter_method", "jobs"] with
  | some [prefixes, registrations, skipXrefs, components, skipInference, classPattern,
      methodPattern, jobs] => do
    let default : Options := {}
    return {
      frameworkPrefixes :=
        ← withDefault default.frameworkPrefixes (Json.list? Json.string?) prefixes
      registrationFile := ← withDefault none (Json.nullable? Json.string?) registrations
      skipXrefs := ← withDefault false Json.bool? skipXrefs
      declaredComponents := ← withDefault [] (Json.list? Component.ofJson?) components
      skipInference := ← withDefault false Json.bool? skipInference
      classPattern := ← withDefault none (Json.nullable? Json.string?) classPattern
      methodPattern := ← withDefault none (Json.nullable? Json.string?) methodPattern
      jobs := ← withDefault none (Json.nullable? Json.word64?) jobs }
  | _ => none

end CallAtlas
