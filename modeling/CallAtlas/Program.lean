import CallAtlas.BlockGraph
import CallAtlas.Hierarchy
import CallAtlas.Pattern

/-!
# Programs

The whole-program view of an image behind a framework boundary: its class hierarchy, and the block
graph of every method body of the application. Bodies of framework classes are left out.

## Main definitions

* `Image.bodies`: the method bodies of the application
* `Program`, `Program.ofNonempty`, `Program.ofImage?`: the view of an image that has a class
* `Program.graph?`, `Program.findMethod?`, `Program.findField?`: looking methods and fields up
* `Program.findClasses`: the classes that a pattern selects
* `Program.resolve`: the method a call refers to, found by climbing the superclasses
-/

namespace CallAtlas

/-- The classes of an image that lie outside of the framework, in order. -/
def Image.applicationClasses (image : Image) (boundary : Boundary) : List ClassDef :=
  image.classList.filter fun c => !boundary.contains c.name

/-- The methods of a class that have code, with that code. -/
def ClassDef.bodies (c : ClassDef) : List (MethodRef × Code) :=
  c.methods.filterMap fun m => m.code.map fun code => (c.methodRef m, code)

/-- The method bodies of the application, in order. -/
def Image.bodies (image : Image) (boundary : Boundary) : List (MethodRef × Code) :=
  (image.applicationClasses boundary).flatMap ClassDef.bodies

/-- The block graphs of method bodies; of two bodies of one method the later counts. -/
def BlockGraph.ofBodies (bodies : List (MethodRef × Code)) : Std.ExtTreeMap MethodRef BlockGraph :=
  bodies.foldl (fun graphs (m, code) => graphs.insert m (ofCode code)) ∅

/-- An image with at least one class, its boundary, and the indexes derived from them. -/
structure Program where
  image : Image
  boundary : Boundary
  nonempty : image.isEmpty = false
  hierarchy : Hierarchy
  hierarchy_eq : hierarchy = Hierarchy.ofImage image boundary
  graphs : Std.ExtTreeMap MethodRef BlockGraph
  graphs_eq : graphs = BlockGraph.ofBodies (image.bodies boundary)

/-- Where climbing the superclasses from the class of a call leads. -/
inductive Resolution where
  /-- The first class on the way that declares the method. -/
  | method (target : MethodRef)
  /-- The first framework class on the way. -/
  | framework (target : MethodRef)
  | unresolved
deriving DecidableEq, Inhabited

namespace Program

/-- The whole-program view of an image that has a class. -/
def ofNonempty (image : Image) (boundary : Boundary) (nonempty : image.isEmpty = false) :
    Program :=
  { image, boundary, nonempty
    hierarchy := Hierarchy.ofImage image boundary, hierarchy_eq := rfl
    graphs := BlockGraph.ofBodies (image.bodies boundary), graphs_eq := rfl }

/-- The whole-program view of an image; none when it has no class. -/
def ofImage? (image : Image) (boundary : Boundary) : Option Program :=
  if h : image.isEmpty = false then some (ofNonempty image boundary h) else none

/-- Whether a class belongs to the framework. -/
def isFramework (p : Program) (className : String) : Bool := p.boundary.contains className

/-- The class filed under a key. -/
def getClass? (p : Program) (key : String) : Option ClassDef := p.image.getClass? key

/-- The method declared by exactly the owner of a reference. -/
def findMethod? (p : Program) (m : MethodRef) : Option Method := p.image.findMethod? m

/-- The field declared by exactly the owner of a reference. -/
def findField? (p : Program) (f : FieldRef) : Option Field := p.image.findField? f

/-- The classes whose names a pattern selects, in the order of their keys. -/
def findClasses (p : Program) (pattern : Pattern) : List ClassDef :=
  p.image.classList.filter fun c => pattern.selects c.name

/-- The block graph of a method. -/
def graph? (p : Program) (m : MethodRef) : Option BlockGraph := p.graphs[m]?

/-- The methods with a block graph and these graphs, in the order of the methods. -/
def graphList (p : Program) : List (MethodRef × BlockGraph) := p.graphs.toList

/-- What a class on the way says about a call, if anything. -/
def resolveOn (p : Program) (callee : MethodRef) (className : String) : Option Resolution :=
  if p.isFramework className then some (.framework (callee.withOwner className))
  else if (p.findMethod? (callee.withOwner className)).isSome then
    some (.method (callee.withOwner className))
  else none

/-- The method a call refers to: the superclasses of its owner are climbed until one belongs to the
framework or declares the method. -/
def resolve (p : Program) (callee : MethodRef) : Resolution :=
  ((p.hierarchy.superclassChain callee.owner).findSome? (p.resolveOn callee)).getD .unresolved

/-- Whether a method has a body with at least one instruction. -/
def hasEntry (p : Program) (m : MethodRef) : Bool :=
  match p.graph? m with
  | none => false
  | some g => (g.blockStartingAt? .entry).isSome

end Program

end CallAtlas
