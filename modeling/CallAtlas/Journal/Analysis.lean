import CallAtlas.Analysis
import CallAtlas.Journal.Program

/-!
# Notices about analyses

## Main definitions

* `CallGraph.buildNotices`, `CallGraph.linkNotices`: the events of building and linking a call graph
* `RegistrationTable.parseNotices`, `ComponentTable.insertNotices`: entries that replace others
* `XrefIndex.buildNotices`: references that lead nowhere
* `Options.filterNotices`, `Analysis.notices`: the events of an analysis
-/

namespace CallAtlas

open Text (decimal hex)

/-- The callback that a registration replaces. -/
def RegistrationTable.insertNotices (t : RegistrationTable) (r : Registration) : List Notice :=
  match t.callback? r.registration r.position with
  | none => []
  | some previous => [⟨.debug, "registration callback " ++ previous.text ++ " overwritten"⟩]

/-- The callbacks that registrations added in order replace. -/
def RegistrationTable.insertManyNotices (t : RegistrationTable) : List Registration → List Notice
  | [] => []
  | r :: rs => t.insertNotices r ++ (t.insert r).insertManyNotices rs

/-- The events of reading a registration table, up to its first faulty line. -/
def RegistrationTable.parseNotices (s : String) : List Notice :=
  RegistrationTable.empty.insertManyNotices (Registration.ofText s).1

/-- The events of reading a registration table from a file. -/
def RegistrationTable.loadNotices (files : Files) (path : String) : List Notice :=
  match (files path).bind String.fromUTF8? with
  | none => []
  | some text =>
    parseNotices text ++ match parse text with
      | .ok table =>
        [⟨.debug, decimal table.size ++ " registration methods loaded from " ++ path⟩]
      | .error _ => []

/-- The component that a declaration changes. -/
def ComponentTable.insertNotices (t : ComponentTable) (c : Component) : List Notice :=
  match t.get? c.className with
  | none => []
  | some previous =>
    if previous = c.kind then []
    else [⟨.debug, "component " ++ c.className ++ " redeclared as " ++ c.kind.text ++ " (was "
      ++ previous.text ++ ")"⟩]

/-- The components that declarations added in order change. -/
def ComponentTable.insertManyNotices (t : ComponentTable) : List Component → List Notice
  | [] => []
  | c :: cs => t.insertNotices c ++ (t.insert c).insertManyNotices cs

/-- The event of recognizing components. -/
def ComponentTable.inferNotices (p : Program) : List Notice :=
  ComponentTable.empty.insertManyNotices p.inferredComponents
    ++ [⟨.debug, decimal (ComponentTable.infer p).size
      ++ " components inferred from the hierarchy"⟩]

namespace Program

/-- The events of resolving an invocation. -/
def explicitNotices (p : Program) (i : Invocation) : List Notice :=
  p.resolveNotices i.callee ++ match p.resolve i.callee with
    | .unresolved =>
      [⟨.trace, i.node.id ++ ": call at " ++ hex i.site.toNat ++ " to " ++ i.callee.text
        ++ " is unresolved"⟩]
    | _ => []

/-- The events of looking for the callbacks that an invocation gives rise to. -/
def implicitNotices (p : Program) (table : RegistrationTable) (i : Invocation) : List Notice :=
  p.hierarchy.walkNotices (fun c => (table.get? (i.callee.withOwner c)).isSome) i.callee.owner
    ++ (p.implicitTargets table i).map fun (registration, target) =>
      ⟨.trace, "implicit call from " ++ (CallNode.placeholder registration).id ++ " to "
        ++ target.text⟩

/-- The events of resolving the callbacks of a stage of a component. -/
def stageNotices (p : Program) (className : String) (stage : List (String × String)) :
    List Notice :=
  stage.flatMap fun (name, descriptor) => p.resolveNotices ⟨className, name, descriptor⟩

/-- The events of linking a component; later stages are not looked at without a first callback. -/
def lifecycleNotices (p : Program) (c : Component) : List Notice :=
  if p.firstNodes c = [] then
    p.stageNotices c.className (c.kind.stages.headD [])
      ++ [⟨.debug, c.kind.text ++ " " ++ c.className ++ " does not implement its entry callback"⟩]
  else c.kind.stages.flatMap (p.stageNotices c.className)

end Program

namespace CallGraph

/-- The events of building a call graph. -/
def buildNotices (p : Program) (table : Option RegistrationTable) : List Notice :=
  let graph := build p table
  (p.invocations.flatMap fun i => p.explicitNotices i ++ match table with
      | none => []
      | some table => p.implicitNotices table i)
    ++ [⟨.debug, "callgraph: " ++ decimal graph.nodeCount ++ " nodes, "
      ++ decimal graph.callCount ++ " edges, " ++ decimal graph.resolved.length
      ++ " resolved calls"⟩]

/-- The events of linking components to a call graph. -/
def linkNotices (p : Program) (components : ComponentTable) : List Notice :=
  components.toList.flatMap p.lifecycleNotices

end CallGraph

/-- The events of computing cross references. -/
def XrefIndex.buildNotices (p : Program) (g : CallGraph) : List Notice :=
  let index := build p g
  (p.instructions.filterMap fun (m, i) =>
      match Program.namedField? i with
      | none => none
      | some (f, _) =>
        if (p.findField? f).isSome then none
        else some ⟨.trace, m.text ++ ": field " ++ f.text ++ " is unresolved"⟩)
    ++ [⟨.debug, "xrefs: " ++ decimal index.usages.size ++ " class usages, "
      ++ decimal index.accesses.size ++ " field accesses, " ++ decimal index.strings.size
      ++ " strings, " ++ decimal index.methods.size ++ " methods"⟩]

namespace Options

/-- The event of reading the patterns for the nodes of interest. -/
def filterNotices (o : Options) : List Notice :=
  match o.nodeFilter with
  | .ok (some f) =>
    [⟨.debug, "filtering callgraph on class pattern " ++ Pattern.describe f.classPattern
      ++ ", method pattern " ++ Pattern.describe f.methodPattern⟩]
  | _ => []

/-- The events of reading the registration table. -/
def registrationNotices (o : Options) (files : Files) : List Notice :=
  match o.registrationFile with
  | none => []
  | some path => RegistrationTable.loadNotices files path

/-- The events of collecting the components to link. -/
def componentNotices (o : Options) (p : Program) : List Notice :=
  if o.skipInference then ComponentTable.empty.insertManyNotices o.declaredComponents
  else ComponentTable.inferNotices p
    ++ (ComponentTable.infer p).insertManyNotices o.declaredComponents

end Options

namespace Analysis

/-- The events of the analysis of a program. -/
def programNotices (o : Options) (p : Program) (table : Option RegistrationTable)
    (filter : Option NodeFilter) : List Notice :=
  let components := o.components p
  let graph := fullGraph p table components
  p.notices
    ++ [⟨.info, decimal p.graphs.size ++ " method graphs built"⟩]
    ++ CallGraph.buildNotices p table
    ++ o.componentNotices p
    ++ (if components.isEmpty then []
      else CallGraph.linkNotices p components
        ++ [⟨.info, decimal components.size ++ " components linked, "
          ++ decimal graph.entries.length ++ " entry points"⟩])
    ++ [⟨.info, "callgraph: " ++ graph.stats.text⟩]
    ++ (if o.computesXrefs then XrefIndex.buildNotices p graph else [])
    ++ match filter with
      | none => []
      | some f => [⟨.info, "filtered callgraph: " ++ (graph.filter f.accepts).stats.text⟩]

/-- The events of an analysis, up to its failure if it fails. -/
def notices (image : Image) (o : Options) (files : Files) : List Notice :=
  if o.jobs = some 0 then []
  else o.registrationNotices files ++ match o.registrations files with
    | .error _ => []
    | .ok table => o.filterNotices ++ match o.nodeFilter with
      | .error _ => []
      | .ok filter =>
        ⟨.info, "analysing " ++ decimal image.classCount ++ " classes, "
          ++ decimal image.methodCount ++ " methods"⟩
          :: match Program.ofImage? image o.boundary with
            | none => []
            | some p => programNotices o p table filter

end Analysis

end CallAtlas
