import CallAtlas.Code

/-!
# Basic blocks

A basic block is a run of instructions that control enters at the first one and leaves after the
last one. A body is cut before every leader (a jump target, the start of a protected range, or a
handler) and after every branch.

## Main definitions

* `Block`: a non-empty run of instructions
* `Code.leaders`: the offsets at which a block must start
* `Code.blocks`: the blocks of a body, in order

## Main results

* `Block.flatMap_split`: cutting loses, repeats and reorders nothing
-/

namespace CallAtlas

/-- A non-empty run of instructions. -/
structure Block where
  head : Instruction
  tail : List Instruction
deriving DecidableEq, Inhabited

namespace Block

/-- The instructions of a block, in order. -/
def instructions (b : Block) : List Instruction := b.head :: b.tail

/-- The last instruction of a block. -/
def last (b : Block) : Instruction := b.instructions.getLast (List.cons_ne_nil _ _)

/-- The offset of the first instruction. -/
def start (b : Block) : Offset := b.head.addr

/-- The offset just past the last instruction. -/
def stop (b : Block) : Offset := b.last.next

/-- Whether an offset lies in the range of a block. -/
def contains (b : Block) (a : Offset) : Bool := b.start ≤ a ∧ a < b.stop

/-- One line for each instruction: its offset on five columns, a colon and its text. -/
def text (b : Block) : String :=
  String.join (b.instructions.map fun i =>
    Text.padLeft 5 ' ' (Text.decimal i.addr.toNat) ++ ": " ++ i.text ++ "\n")

/-- Cuts a list of instructions between those neighbours for which `cut` holds. -/
def split (cut : Instruction → Instruction → Bool) : List Instruction → List Block
  | [] => []
  | i :: is =>
    -- the first instruction joins the block of the next one, or stands alone
    match split cut is with
    | [] => [⟨i, []⟩]
    | b :: bs => if cut i b.head then ⟨i, []⟩ :: b :: bs else ⟨i, b.instructions⟩ :: bs

@[simp] theorem split_nil (cut : Instruction → Instruction → Bool) : split cut [] = [] := rfl

/-- Cutting loses, repeats and reorders nothing. -/
theorem flatMap_split (cut : Instruction → Instruction → Bool) (is : List Instruction) :
    (split cut is).flatMap instructions = is := by
  induction is with
  | nil => rfl
  | cons i is ih =>
    unfold split
    split
    · next h =>
      rw [h] at ih
      simp only [List.flatMap_nil] at ih
      simp [instructions, ← ih]
    · next b bs h =>
      rw [h] at ih
      split <;> simpa [instructions] using ih

end Block

namespace Code

/-- The offsets at which a block must start: jump targets, starts of protected ranges, and
handlers. -/
def leaders (code : Code) : List Offset :=
  code.instructions.flatMap (·.operation.targets)
    ++ code.tries.flatMap fun t => t.start :: t.clauses.map (·.handler)

/-- Whether two neighbouring instructions belong to different blocks. -/
def cutsBetween (leaders : List Offset) (i j : Instruction) : Bool :=
  i.operation.isBranch || leaders.contains j.addr

/-- The basic blocks of a body, in order. -/
def blocks (code : Code) : List Block :=
  Block.split (cutsBetween code.leaders) code.instructions

@[simp] theorem flatMap_blocks (code : Code) :
    code.blocks.flatMap Block.instructions = code.instructions :=
  Block.flatMap_split _ _

end Code

end CallAtlas
