import CallAtlas.Code
import Std.Data.ExtTreeMap

/-!
# Images

An image is the decoded contents of an application: its classes with their superclass,
interfaces, fields and methods. Classes are filed under a key; the key of a class added with
`Image.addClass` is its name, and the first definition of a name is kept.

## Main definitions

* `Field`, `Method`, `ClassDef`: the parts of a class
* `Image`: classes filed by key
* `Image.addClass`, `Image.ofClasses`: filing classes under their names
-/

namespace CallAtlas

/-- A declared field. -/
structure Field where
  name : String
  type : String
deriving DecidableEq, Inhabited

/-- A declared method; abstract and native methods have no code. -/
structure Method where
  name : String
  descriptor : String
  code : Option Code
deriving DecidableEq, Inhabited

/-- A class definition. -/
structure ClassDef where
  name : String
  superclass : Option String
  interfaces : List String
  methods : List Method
  fields : List Field
deriving DecidableEq, Inhabited

namespace ClassDef

/-- The first declared method of that name and descriptor. -/
def findMethod? (c : ClassDef) (name descriptor : String) : Option Method :=
  c.methods.find? fun m => m.name = name ∧ m.descriptor = descriptor

/-- The first declared field of that name. -/
def findField? (c : ClassDef) (name : String) : Option Field :=
  c.fields.find? fun f => f.name = name

/-- The reference to a method of the class. -/
def methodRef (c : ClassDef) (m : Method) : MethodRef := ⟨c.name, m.name, m.descriptor⟩

/-- The reference to a field of the class. -/
def fieldRef (c : ClassDef) (f : Field) : FieldRef := ⟨c.name, f.name, f.type⟩

/-- The classes a class extends or implements, in that order. -/
def parents (c : ClassDef) : List String := c.superclass.toList ++ c.interfaces

end ClassDef

/-- Classes filed by key. -/
structure Image where
  classes : Std.ExtTreeMap String ClassDef

namespace Image

/-- The image without class. -/
def empty : Image := ⟨∅⟩

instance : Inhabited Image := ⟨empty⟩

/-- The class definitions, in the order of their keys. -/
def classList (image : Image) : List ClassDef := image.classes.values

/-- The class filed under a key. -/
def getClass? (image : Image) (key : String) : Option ClassDef := image.classes[key]?

/-- Whether there is no class. -/
def isEmpty (image : Image) : Bool := image.classes.isEmpty

/-- The number of classes. -/
def classCount (image : Image) : Nat := image.classes.size

/-- The number of declared methods. -/
def methodCount (image : Image) : Nat :=
  (image.classList.flatMap (·.methods)).length

/-- Files a class under its name, unless there is one already. -/
def addClass (image : Image) (c : ClassDef) : Image := ⟨image.classes.insertIfNew c.name c⟩

/-- The image holding the first definition of each name. -/
def ofClasses (classes : List ClassDef) : Image := classes.foldl addClass empty

/-- The method declared by exactly the class filed under its owner. -/
def findMethod? (image : Image) (m : MethodRef) : Option Method :=
  (image.getClass? m.owner).bind (·.findMethod? m.name m.descriptor)

/-- The field of that name declared by exactly the class filed under its owner. -/
def findField? (image : Image) (f : FieldRef) : Option Field :=
  (image.getClass? f.owner).bind (·.findField? f.name)

end Image

end CallAtlas
