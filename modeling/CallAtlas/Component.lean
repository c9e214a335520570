import CallAtlas.CallGraph.Node
import CallAtlas.Program

/-!
# Application components

Activities, services and broadcast receivers are the classes of an application that the platform
runs. Components are declared, or recognized by the class they descend from.

## Main definitions

* `ComponentKind`: the kinds of components, their base classes and their lifecycles
* `Component`: a declaration
* `ComponentTable`: the kind of each component, by class
* `ComponentTable.infer`: the components recognized in a program
* `Component.entry`: the placeholder that stands for the platform starting a component
-/

namespace CallAtlas

/-- The kinds of components. -/
inductive ComponentKind where
  | activity
  | service
  | receiver
deriving DecidableEq, Inhabited

namespace ComponentKind

/-- The kinds, in the order in which they are recognized. -/
def all : List ComponentKind := [.activity, .service, .receiver]

/-- The word for a kind. -/
def text : ComponentKind → String
  | activity => "activity"
  | service => "service"
  | receiver => "receiver"

/-- The framework class that every component of a kind descends from. -/
def baseClass : ComponentKind → String
  | activity => "Landroid/app/Activity;"
  | service => "Landroid/app/Service;"
  | receiver => "Landroid/content/BroadcastReceiver;"

/-- The lifecycle of a kind: stages of alternative callbacks, each a name and a descriptor. -/
def stages : ComponentKind → List (List (String × String))
  | activity =>
    [[("onCreate", "(Landroid/os/Bundle;)V")],
      [("onStart", "()V")],
      [("onResume", "()V")],
      [("onPause", "()V")],
      [("onStop", "()V")],
      [("onDestroy", "()V")]]
  | service =>
    [[("onCreate", "()V")],
      [("onStartCommand", "(Landroid/content/Intent;II)I"),
        ("onBind", "(Landroid/content/Intent;)Landroid/os/IBinder;")],
      [("onUnbind", "(Landroid/content/Intent;)Z")],
      [("onDestroy", "()V")]]
  | receiver =>
    [[("onReceive", "(Landroid/content/Context;Landroid/content/Intent;)V")]]

end ComponentKind

/-- The declaration of a component. -/
structure Component where
  className : String
  kind : ComponentKind
deriving DecidableEq, Inhabited

/-- The placeholder that stands for the platform starting a component. -/
def Component.entry (c : Component) : CallNode :=
  .placeholder ⟨c.className, "<" ++ c.kind.text ++ ">", "()V"⟩

/-- The kind of each component, by class. -/
structure ComponentTable where
  kinds : Std.ExtTreeMap String ComponentKind

namespace ComponentTable

/-- The table without component. -/
def empty : ComponentTable := ⟨∅⟩

instance : Inhabited ComponentTable := ⟨empty⟩

/-- Adds a component, replacing the kind of a known class. -/
def insert (t : ComponentTable) (c : Component) : ComponentTable :=
  ⟨t.kinds.insert c.className c.kind⟩

/-- Adds components in order. -/
def insertMany (t : ComponentTable) (cs : List Component) : ComponentTable := cs.foldl insert t

/-- The table of some components, in which later ones replace earlier ones. -/
def ofList (cs : List Component) : ComponentTable := empty.insertMany cs

/-- The kind of a class. -/
def get? (t : ComponentTable) (className : String) : Option ComponentKind := t.kinds[className]?

/-- The components, in the order of their classes. -/
def toList (t : ComponentTable) : List Component :=
  t.kinds.toList.map fun (className, kind) => ⟨className, kind⟩

/-- The number of components. -/
def size (t : ComponentTable) : Nat := t.kinds.size

/-- Whether there is no component. -/
def isEmpty (t : ComponentTable) : Bool := t.kinds.isEmpty

end ComponentTable

namespace Program

/-- The kind of component that a class is recognized as: the first whose base class it descends
from. -/
def componentKind? (p : Program) (className : String) : Option ComponentKind :=
  ComponentKind.all.find? fun kind => p.hierarchy.isSubclassOf className kind.baseClass

/-- The components recognized among the classes of the application. -/
def inferredComponents (p : Program) : List Component :=
  (p.image.applicationClasses p.boundary).filterMap fun c =>
    (p.componentKind? c.name).map fun kind => ⟨c.name, kind⟩

end Program

/-- The table of the components recognized in a program. -/
def ComponentTable.infer (p : Program) : ComponentTable := ofList p.inferredComponents

end CallAtlas
