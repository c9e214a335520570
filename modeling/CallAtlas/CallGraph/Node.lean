import CallAtlas.Offset
import CallAtlas.Reference
import CallAtlas.Text

/-!
# Nodes and edges of the call graph

A node is either a basic block of a method of the application or a placeholder that stands for a
method outside of it. Calls are edges between nodes, with the offset of the call in its caller and
the reason for the edge.

## Main definitions

* `CallKind`: why there is an edge
* `CallNode`, `CallNode.id`: nodes and the identifiers they are exported under
* `Call`, `ResolvedCall`: edges, and the methods that call sites were resolved to
-/

namespace CallAtlas

/-- Why the call graph has an edge. -/
inductive CallKind where
  /-- Call of the method that the callee resolves to, possibly inherited. -/
  | direct
  /-- Call of an override in a class below that of the resolved method. -/
  | virtual
  /-- Call that crosses the framework boundary. -/
  | framework
  /-- Call from the framework back into the application, after a registration. -/
  | callback
  /-- Step of a component from one lifecycle callback to the next. -/
  | lifecycle
deriving DecidableEq, Inhabited

namespace CallKind

/-- The kinds, in order. -/
def all : List CallKind := [.direct, .virtual, .framework, .callback, .lifecycle]

/-- The word for a kind. -/
def text : CallKind → String
  | direct => "direct"
  | .virtual => "virtual"
  | framework => "framework"
  | callback => "callback"
  | lifecycle => "lifecycle"

end CallKind

/-- A node of the call graph. -/
inductive CallNode where
  /-- The basic block of a method that starts at an offset. -/
  | block (method : MethodRef) (start : Offset)
  /-- A method that is not expanded. -/
  | placeholder (method : MethodRef)
deriving DecidableEq, Inhabited

namespace CallNode

/-- The method of a node. -/
def method : CallNode → MethodRef
  | block m _ => m
  | placeholder m => m

/-- The start of a block, zero for a placeholder. -/
def offset : CallNode → Offset
  | block _ a => a
  | placeholder _ => .entry

/-- Whether a node is a placeholder. -/
def isPlaceholder : CallNode → Bool
  | block _ _ => false
  | placeholder _ => true

/-- Blocks come before placeholders; nodes of one sort are ordered by method, then by offset. -/
instance : Ord CallNode :=
  ⟨compareLex (compareOn isPlaceholder) (compareLex (compareOn method) (compareOn offset))⟩

instance : Std.TransOrd CallNode :=
  inferInstanceAs (Std.TransCmp
    (compareLex (compareOn isPlaceholder) (compareLex (compareOn method) (compareOn offset))))

instance : Std.LawfulEqOrd CallNode where
  eq_of_compare {a b} h := by
    obtain ⟨h₁, h⟩ := compareLex_eq_eq.mp h
    obtain ⟨h₂, h₃⟩ := compareLex_eq_eq.mp h
    simp only [compareOn, Std.LawfulEqOrd.compare_eq_iff_eq] at h₁ h₂ h₃
    cases a <;> cases b <;> simp_all [isPlaceholder, method, offset]

/-- The identifier of a node: the signature of its method, then the offset of a block in
hexadecimal, or four zeros for a placeholder. -/
def id : CallNode → String
  | block m a => m.signature ++ "@0x" ++ Text.hex a.toNat
  | placeholder m => m.signature ++ "0x0000"

end CallNode

/-- An edge of the call graph. -/
structure Call where
  source : CallNode
  target : CallNode
  /-- The offset of the call in its caller. -/
  site : Offset
  kind : CallKind
deriving DecidableEq, Inhabited

/-- A call site and one of the methods it was resolved to. -/
structure ResolvedCall where
  caller : MethodRef
  /-- The start of the block that contains the call. -/
  block : Offset
  site : Offset
  callee : MethodRef
  kind : CallKind
deriving DecidableEq, Inhabited

/-- Why control can leave a basic block. -/
inductive StepKind where
  /-- Jump or fall-through inside the method. -/
  | intra
  /-- Call of another node. -/
  | inter (kind : CallKind)
deriving DecidableEq, Inhabited

namespace StepKind

/-- The kinds of steps, in order. -/
def all : List StepKind := .intra :: CallKind.all.map .inter

/-- The label of a step. -/
def text : StepKind → String
  | intra => "<intra>"
  | inter kind => "<inter " ++ kind.text ++ ">"

end StepKind

/-- One step out of a basic block. -/
structure Step where
  site : Offset
  kind : StepKind
  target : CallNode
deriving DecidableEq, Inhabited

end CallAtlas
