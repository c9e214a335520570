import CallAtlas.Boundary
import CallAtlas.Image
import CallAtlas.Search

/-!
# The class hierarchy

Every class of an image is linked to the class it extends and to the interfaces it implements.
Classes that are only referred to are indexed as well, without a definition. Links may form
cycles. When a name is defined twice the links of both definitions count, and the node of the name
describes the later one.

## Main definitions

* `Hierarchy.ofImage`: the hierarchy of an image
* `Hierarchy.subclasses`, `Hierarchy.descendants`: the classes directly or transitively below one
* `Hierarchy.superclassChain`: the superclasses of a class, itself first
* `Hierarchy.isSubclassOf`: whether a class lies below another
-/

namespace CallAtlas

/-- How a class refers to the class above it. -/
inductive Inheritance where
  | extends
  | implements
deriving DecidableEq, Inhabited

namespace Inheritance

/-- The two kinds of inheritance. -/
def all : List Inheritance := [.extends, .implements]

/-- The label of a link. -/
def text : Inheritance → String
  | .extends => "<extends>"
  | .implements => "<implements>"

end Inheritance

/-- A link from a class to one above it. -/
structure ClassLink where
  source : String
  target : String
  kind : Inheritance
deriving DecidableEq, Inhabited

/-- What is known about a class name. -/
structure ClassNode where
  name : String
  superclass : Option String
  interfaces : List String
  /-- Whether the image defines the class, rather than only refers to it. -/
  defined : Bool
  framework : Bool
deriving DecidableEq, Inhabited

/-- The links of a class definition, in order. -/
def ClassDef.links (c : ClassDef) : List ClassLink :=
  (c.superclass.toList.map fun s => ⟨c.name, s, .extends⟩)
    ++ c.interfaces.map fun i => ⟨c.name, i, .implements⟩

/-- The links of all classes of an image, in order. -/
def Image.links (image : Image) : List ClassLink := image.classList.flatMap ClassDef.links

/-- The class names of an image and the links between them. -/
structure Hierarchy where
  /-- The nodes, by class name. -/
  nodes : Std.ExtTreeMap String ClassNode
  /-- The links, in listing order. -/
  links : List ClassLink
  /-- The classes directly below each class. -/
  below : Std.ExtTreeMap String (Std.ExtTreeSet String)
  /-- The classes directly above each class. -/
  above : Std.ExtTreeMap String (List String)
  /-- The number of class definitions and of names that are only referred to. -/
  size : Nat

namespace Hierarchy

/-- The node of a class definition. -/
def definedNode (boundary : Boundary) (c : ClassDef) : ClassNode :=
  ⟨c.name, c.superclass, c.interfaces, true, boundary.contains c.name⟩

/-- The node of a name without definition. -/
def referencedNode (boundary : Boundary) (name : String) : ClassNode :=
  ⟨name, none, [], false, boundary.contains name⟩

/-- The nodes of the classes that an image defines. -/
def definedNodes (image : Image) (boundary : Boundary) : Std.ExtTreeMap String ClassNode :=
  image.classList.foldl (fun nodes c => nodes.insert c.name (definedNode boundary c)) ∅

/-- The nodes of the classes that an image defines or refers to. -/
def allNodes (image : Image) (boundary : Boundary) : Std.ExtTreeMap String ClassNode :=
  image.links.foldl (fun nodes l => nodes.insertIfNew l.target (referencedNode boundary l.target))
    (definedNodes image boundary)

/-- The sources of the links to each class. -/
def sourcesByTarget (links : List ClassLink) : Std.ExtTreeMap String (Std.ExtTreeSet String) :=
  links.foldl (fun m l => m.insert l.target ((m.getD l.target ∅).insert l.source)) ∅

/-- The targets of the links from each class, latest first. -/
def targetsBySource (links : List ClassLink) : Std.ExtTreeMap String (List String) :=
  links.foldl (fun m l => m.insert l.source (l.target :: m.getD l.source [])) ∅

/-- The hierarchy of an image. -/
def ofImage (image : Image) (boundary : Boundary) : Hierarchy :=
  let nodes := allNodes image boundary
  let links := image.links
  { nodes, links
    below := sourcesByTarget links
    above := targetsBySource links
    -- definitions that share a name count each
    size := image.classCount + (nodes.values.filter (!·.defined)).length }

/-- The node of a class name. -/
def getClass? (h : Hierarchy) (name : String) : Option ClassNode := h.nodes[name]?

/-- Whether a class name is indexed. -/
def contains (h : Hierarchy) (name : String) : Bool := h.nodes.contains name

/-- All nodes, in the order of their names. -/
def classList (h : Hierarchy) : List ClassNode := h.nodes.values

/-- The number of names that are only referred to. -/
def referencedCount (h : Hierarchy) : Nat := (h.classList.filter (!·.defined)).length

/-- The recorded superclass of a class. -/
def superclass? (h : Hierarchy) (name : String) : Option String :=
  (h.getClass? name).bind (·.superclass)

/-- The classes directly extending or implementing a class. -/
def subclasses (h : Hierarchy) (name : String) : Std.ExtTreeSet String := h.below.getD name ∅

/-- The classes a class directly extends or implements. -/
def parents (h : Hierarchy) (name : String) : List String := h.above.getD name []

/-- The classes transitively below a class, nearest first, without the class itself; classes at the
same distance stand in the order of the search, which visits subclasses by name. -/
def descendants (h : Hierarchy) (name : String) : List String :=
  Search.beyond (fun c => (h.subclasses c).toList) h.nodes.size [name]

/-- Whether one or more links lead from a class to another; both have to be indexed. -/
def isSubclassOf (h : Hierarchy) (name ancestor : String) : Bool :=
  h.contains name && h.contains ancestor
    && Search.meets h.parents ancestor h.nodes.size (Std.ExtTreeSet.ofList [name]) [name]

/-- The classes met when climbing superclass links from `name`, at most `fuel` of them, until a
class has no recorded superclass or is in `seen`. -/
def climb (h : Hierarchy) : Nat → List String → String → List String
  | 0, _, _ => []
  | fuel + 1, seen, name =>
    if seen.contains name then []
    else name :: match h.superclass? name with
      | none => []
      | some s => h.climb fuel (name :: seen) s

/-- The superclasses of a class, itself first, up to the first repetition. -/
def superclassChain (h : Hierarchy) (name : String) : List String :=
  h.climb (h.nodes.size + 1) [] name

/-- The class that the superclass chain would repeat; none when the chain just ends. -/
def repeatedSuperclass? (h : Hierarchy) (name : String) : Option String :=
  (h.superclassChain name).getLast?.bind h.superclass?

end Hierarchy

end CallAtlas
