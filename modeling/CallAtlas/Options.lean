import CallAtlas.Component
import CallAtlas.Pattern
import CallAtlas.Registration

/-!
# Options of an analysis

What to take for the framework, where to find the registration table, which components to link,
which part of the call graph to keep, and whether to compute cross references.

## Main definitions

* `Options`: the options, with their defaults
* `Options.boundary`, `Options.components`, `Options.registrations`, `Options.nodeFilter`: what
  the options ask for
* `NodeFilter`: the nodes of interest
-/

namespace CallAtlas

/-- The options of an analysis. -/
structure Options where
  /-- The beginnings of the names of framework classes. -/
  frameworkPrefixes : List String := Boundary.androidPrefixes
  /-- The file with the registration table. -/
  registrationFile : Option String := none
  skipXrefs : Bool := false
  /-- The declared components; of two declarations of a class the later counts. -/
  declaredComponents : List Component := []
  skipInference : Bool := false
  /-- The pattern for the classes of interest. -/
  classPattern : Option String := none
  /-- The pattern for the names of the methods of interest. -/
  methodPattern : Option String := none
  /-- The number of workers. -/
  jobs : Option UInt64 := none
deriving DecidableEq, Inhabited

/-- A text that is not a pattern. -/
structure MalformedPattern where
  source : String
deriving DecidableEq

/-- Why a registration table could not be used. -/
inductive TableError where
  /-- The file is missing or is not text. -/
  | unreadable
  | malformed (cause : RegistrationError)
deriving DecidableEq

/-- The nodes of interest: those whose class and method name are selected by these patterns. -/
structure NodeFilter where
  classPattern : Option Pattern
  methodPattern : Option Pattern

/-- Whether a node is of interest. -/
def NodeFilter.accepts (f : NodeFilter) (n : CallNode) : Bool :=
  f.classPattern.all (·.selects n.method.owner) && f.methodPattern.all (·.selects n.method.name)

/-- The files that an analysis can read, by path. -/
abbrev Files := String → Option ByteArray

/-- The registration table in a file. -/
def RegistrationTable.load (files : Files) (path : String) :
    Except TableError RegistrationTable :=
  match (files path).bind String.fromUTF8? with
  | none => .error .unreadable
  | some text =>
    match parse text with
    | .ok table => .ok table
    | .error e => .error (.malformed e)

namespace Options

/-- The options with other framework prefixes. -/
def withPrefixes (o : Options) (prefixes : List String) : Options :=
  { o with frameworkPrefixes := prefixes }

/-- The options with a registration table. -/
def withRegistrations (o : Options) (path : String) : Options :=
  { o with registrationFile := some path }

/-- The options without cross references. -/
def withoutXrefs (o : Options) : Options := { o with skipXrefs := true }

/-- The options with one more declared component. -/
def withComponent (o : Options) (c : Component) : Options :=
  { o with declaredComponents := o.declaredComponents ++ [c] }

/-- The options without recognition of components. -/
def withoutInference (o : Options) : Options := { o with skipInference := true }

/-- The options with a pattern for classes. -/
def withClassPattern (o : Options) (pattern : String) : Options :=
  { o with classPattern := some pattern }

/-- The options with a pattern for method names. -/
def withMethodPattern (o : Options) (pattern : String) : Options :=
  { o with methodPattern := some pattern }

/-- The options with a number of workers. -/
def withJobs (o : Options) (jobs : UInt64) : Options := { o with jobs := some jobs }

/-- Whether cross references are computed. -/
def computesXrefs (o : Options) : Bool := !o.skipXrefs

/-- The framework boundary. -/
def boundary (o : Options) : Boundary := .ofPrefixes o.frameworkPrefixes

/-- The components to link: the recognized ones, unless these are not wanted, then the declared
ones. -/
def components (o : Options) (p : Program) : ComponentTable :=
  let table := if o.skipInference then ComponentTable.empty else ComponentTable.infer p
  table.insertMany o.declaredComponents

/-- The registration table, if one is asked for. -/
def registrations (o : Options) (files : Files) : Except TableError (Option RegistrationTable) :=
  match o.registrationFile with
  | none => .ok none
  | some path => (RegistrationTable.load files path).map some

/-- The pattern of a text that may be missing. -/
def readPattern : Option String → Except MalformedPattern (Option Pattern)
  | none => .ok none
  | some source =>
    match Pattern.ofString? source with
    | some p => .ok (some p)
    | none => .error ⟨source⟩

/-- The nodes of interest, if some are asked for; the pattern for classes is read first. -/
def nodeFilter (o : Options) : Except MalformedPattern (Option NodeFilter) :=
  if o.classPattern.isNone && o.methodPattern.isNone then .ok none
  else do
    let classPattern ← readPattern o.classPattern
    let methodPattern ← readPattern o.methodPattern
    return some ⟨classPattern, methodPattern⟩

end Options

end CallAtlas
