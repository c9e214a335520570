import CallAtlas.CallGraph.Build
import CallAtlas.CallGraph.Filter
import CallAtlas.CallGraph.Lifecycle
import CallAtlas.CallGraph.Stats
import CallAtlas.Options
import CallAtlas.Xref

/-!
# The analysis of an image

All phases in order: options, registration table and patterns are checked, the program is indexed,
the call graph is built and components are linked to it, cross references are computed on the whole
graph, and the graph is reduced to the nodes of interest.

## Main definitions

* `Analysis`, `Analysis.run`: the results of an analysis
* `AnalysisError`: why there are none
-/

namespace CallAtlas

/-- Why an analysis has no results. -/
inductive AnalysisError where
  /-- The options ask for no worker. -/
  | noJobs
  | table (cause : TableError)
  | pattern (cause : MalformedPattern)
  /-- The image has no class. -/
  | emptyImage
deriving DecidableEq

/-- The report of the failure of an analysis; none where the cause lies in a file or a pattern. -/
def AnalysisError.message? : AnalysisError → Option String
  | noJobs => some "bad options: at least one job is needed"
  | table .unreadable => none
  | table (.malformed e) => some e.message
  | pattern _ => none
  | emptyImage => some "the image contains no class"

/-- The results of an analysis. -/
structure Analysis where
  program : Program
  components : ComponentTable
  callGraph : CallGraph
  xrefs : Option XrefIndex

namespace Analysis

/-- The call graph of a program with the components linked to it, before any reduction. -/
def fullGraph (p : Program) (table : Option RegistrationTable) (components : ComponentTable) :
    CallGraph :=
  let graph := CallGraph.build p table
  if components.isEmpty then graph else graph.link p components

/-- The results for a program, a registration table and nodes of interest. -/
def ofProgram (o : Options) (p : Program) (table : Option RegistrationTable)
    (filter : Option NodeFilter) : Analysis :=
  let components := o.components p
  let graph := fullGraph p table components
  { program := p
    components
    callGraph := match filter with
      | none => graph
      | some f => graph.filter f.accepts
    -- cross references cover the graph before its reduction
    xrefs := if o.computesXrefs then some (.build p graph) else none }

/-- What an analysis needs besides the image: the registration table and the nodes of interest. The
number of workers is checked first, then the table, then the patterns. -/
def prepare (o : Options) (files : Files) :
    Except AnalysisError (Option RegistrationTable × Option NodeFilter) :=
  if o.jobs = some 0 then .error .noJobs
  else match o.registrations files with
    | .error e => .error (.table e)
    | .ok table =>
      match o.nodeFilter with
      | .error e => .error (.pattern e)
      | .ok filter => .ok (table, filter)

/-- The analysis of an image. -/
def run (image : Image) (o : Options) (files : Files) : Except AnalysisError Analysis :=
  match prepare o files with
  | .error e => .error e
  | .ok (table, filter) =>
    match Program.ofImage? image o.boundary with
    | none => .error .emptyImage
    | some p => .ok (ofProgram o p table filter)

end Analysis

end CallAtlas
