import CallAtlas.Image
import CallAtlas.Region

/-!
# Block graphs

The control flow of a body: its basic blocks, the edges along which control passes from one block
to another, and its exception regions. Each edge remembers the instruction that transfers control
and the offset it transfers control to.

## Main definitions

* `BlockEdge`: an edge between two blocks
* `BlockGraph.ofCode`, `BlockGraph.ofMethod`: the graph of a body, and of a method that has one
* `BlockGraph.blockAt?`, `BlockGraph.blockStartingAt?`: looking blocks up
* `BlockGraph.successors`, `BlockGraph.predecessors`: the edges at a block, in order
* `BlockGraph.regionAt?`: the exception region of a block
-/

namespace CallAtlas

/-- An edge between the blocks starting at `source` and `dest`: the instruction at `site` transfers
control to `target`, which lies in the second block. -/
structure BlockEdge where
  source : Offset
  dest : Offset
  site : Offset
  target : Offset
deriving DecidableEq, Inhabited

namespace Block

/-- The block of a list whose range contains an offset: the last one that starts at or before the
offset, unless it ends there or before. -/
def find? (blocks : List Block) (a : Offset) : Option Block :=
  (blocks.reverse.find? (·.start ≤ a)).filter (·.contains a)

/-- The block of a list that starts at an offset. -/
def startingAt? (blocks : List Block) (a : Offset) : Option Block :=
  List.find? (·.start = a) blocks

/-- The edges out of a block: one for each jump target inside the body, in order, then one to the
block that follows if control can fall through. -/
def edges (blocks : List Block) (b : Block) : List BlockEdge :=
  (b.last.operation.targets.filterMap fun t =>
      (find? blocks t).map fun d => ⟨b.start, d.start, b.last.addr, t⟩)
    ++ if b.last.operation.fallsThrough then
        ((startingAt? blocks b.stop).map fun d => ⟨b.start, d.start, b.last.addr, b.stop⟩).toList
      else []

end Block

/-- The control flow of a method body. -/
structure BlockGraph where
  code : Code
  blocks : List Block
  edges : List BlockEdge
  regions : List Region
deriving DecidableEq, Inhabited

/-- Why a method has no control flow: it is abstract or native, and so has no body. -/
structure MissingBody where
deriving DecidableEq, Inhabited

/-- The report on a method without body. -/
def MissingBody.message (_ : MissingBody) : String := "the method has no implementation"

namespace BlockGraph

/-- The graph of a body. -/
def ofCode (code : Code) : BlockGraph :=
  let blocks := code.blocks
  { code, blocks
    edges := blocks.flatMap (Block.edges blocks)
    regions := code.tries.map (Region.ofTry fun a => (Block.find? blocks a).map (·.start)) }

/-- The graph of the body of a method. -/
def ofMethod (m : Method) : Except MissingBody BlockGraph :=
  match m.code with
  | none => .error ⟨⟩
  | some code => .ok (ofCode code)

/-- The block whose range contains an offset. -/
def blockAt? (g : BlockGraph) (a : Offset) : Option Block := Block.find? g.blocks a

/-- The block that starts at an offset. -/
def blockStartingAt? (g : BlockGraph) (a : Offset) : Option Block := Block.startingAt? g.blocks a

/-- The edges out of the block that contains an offset, in order. -/
def successors (g : BlockGraph) (a : Offset) : List BlockEdge :=
  match g.blockAt? a with
  | none => []
  | some b => g.edges.filter (·.source = b.start)

/-- The edges into the block that contains an offset, in order. -/
def predecessors (g : BlockGraph) (a : Offset) : List BlockEdge :=
  match g.blockAt? a with
  | none => []
  | some b => g.edges.filter (·.dest = b.start)

/-- The index of the first region that matches the range of a block. -/
def regionOf? (g : BlockGraph) (b : Block) : Option Nat :=
  Region.indexOf? g.regions b.start b.stop

/-- The index of the region of the block that contains an offset. -/
def regionAt? (g : BlockGraph) (a : Offset) : Option Nat :=
  (g.blockAt? a).bind g.regionOf?

end BlockGraph

end CallAtlas
