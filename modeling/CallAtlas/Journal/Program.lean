import CallAtlas.Journal.Basic
import CallAtlas.Program

/-!
# Notices about images and programs

## Main definitions

* `Image.duplicateNotices`: the definitions that were ignored
* `BlockGraph.notices`: what the block graph of a method leaves out
* `Hierarchy.notices`, `Hierarchy.walkNotices`: undefined classes and cycles
* `Program.notices`: all events of indexing a program
-/

namespace CallAtlas

open Text (decimal hex)

/-- The definitions that adding classes to an image ignores. -/
def Image.duplicateNotices (image : Image) : List ClassDef → List Notice
  | [] => []
  | c :: cs =>
    (if image.classes.contains c.name then
        [⟨.warn, "duplicate definition of class " ++ c.name ++ ", ignored"⟩]
      else [])
      ++ (image.addClass c).duplicateNotices cs

namespace BlockGraph

/-- The instructions that could not be decoded. -/
def invalidNotices (method : MethodRef) (g : BlockGraph) : List Notice :=
  (g.code.instructions.filter (·.operation.isInvalid)).map fun i =>
    ⟨.warn, method.text ++ ": skipping invalid instruction at " ++ hex i.addr.toNat ++ " ("
      ++ i.text ++ ")"⟩

/-- The jumps that leave the body. -/
def branchNotices (method : MethodRef) (g : BlockGraph) : List Notice :=
  g.blocks.flatMap fun b =>
    (b.last.operation.targets.filter fun t => (g.blockAt? t).isNone).map fun t =>
      ⟨.warn, method.text ++ ": branch at " ++ hex b.last.addr.toNat ++ " targets " ++ hex t.toNat
        ++ ", outside of method code"⟩

/-- The handlers that lie outside of the body. -/
def handlerNotices (g : BlockGraph) : List Notice :=
  (g.regions.flatMap (·.handlers.filter (·.block.isNone))).map fun h =>
    ⟨.warn, "exception handler at " ++ hex h.addr.toNat ++ " is outside of method code"⟩

/-- The events of building the block graph of a method. -/
def notices (method : MethodRef) (g : BlockGraph) : List Notice :=
  g.invalidNotices method ++ g.branchNotices method ++ g.handlerNotices
    ++ [⟨.trace, method.text ++ ": " ++ decimal g.blocks.length ++ " blocks, "
      ++ decimal g.edges.length ++ " edges, " ++ decimal g.regions.length
      ++ " exception regions"⟩]

end BlockGraph

namespace Hierarchy

/-- The names that links refer to without a node in `nodes`, each at its first link. -/
def undefinedNotices (boundary : Boundary) (nodes : Std.ExtTreeMap String ClassNode) :
    List ClassLink → List Notice
  | [] => []
  | l :: ls =>
    (if nodes.contains l.target then []
      else [⟨.trace, "class " ++ l.target ++ " referenced by " ++ l.source ++ " is not defined"⟩])
      ++ undefinedNotices boundary
        (nodes.insertIfNew l.target (referencedNode boundary l.target)) ls

/-- The events of indexing the classes of an image. -/
def notices (image : Image) (boundary : Boundary) (h : Hierarchy) : List Notice :=
  undefinedNotices boundary (definedNodes image boundary) h.links
    ++ [⟨.debug, "hierarchy: " ++ decimal h.size ++ " classes (" ++ decimal h.referencedCount
      ++ " referenced only), " ++ decimal h.links.length ++ " links"⟩]

/-- The event of climbing the superclasses of a class until `found` holds, and meeting a class
twice. -/
def walkNotices (h : Hierarchy) (found : String → Bool) (name : String) : List Notice :=
  if (h.superclassChain name).any found then []
  else match h.repeatedSuperclass? name with
    | none => []
    | some c => [⟨.debug, "superclass cycle detected on " ++ c⟩]

end Hierarchy

namespace Program

/-- The framework classes that were left out. -/
def frameworkNotices (p : Program) : List Notice :=
  (p.image.classList.filter fun c => p.isFramework c.name).map fun c =>
    ⟨.trace, "skipping framework class '" ++ c.name ++ "'"⟩

/-- The events of indexing a program. -/
def notices (p : Program) : List Notice :=
  p.hierarchy.notices p.image p.boundary ++ p.frameworkNotices
    ++ (p.image.bodies p.boundary).flatMap (fun (m, code) => (BlockGraph.ofCode code).notices m)
    ++ [⟨.debug, "repository: " ++ decimal p.image.classCount ++ " classes, "
      ++ decimal p.image.methodCount ++ " methods, " ++ decimal p.graphs.size
      ++ " method graphs"⟩]

/-- The event of resolving a call along a cycle of superclasses. -/
def resolveNotices (p : Program) (callee : MethodRef) : List Notice :=
  p.hierarchy.walkNotices (fun c => (p.resolveOn callee c).isSome) callee.owner

end Program

end CallAtlas
