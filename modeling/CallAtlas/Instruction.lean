import CallAtlas.Offset
import CallAtlas.Reference

/-!
# Instructions

A decoded instruction has a position, a length, an operation, and the text the decoder gave it.
The analyses read the operation only: where control goes next, and which methods, classes, fields
and strings it names.

## Main definitions

* `Operation`: what an instruction does
* `Operation.isBranch`, `Operation.fallsThrough`, `Operation.targets`: where control goes next
* `Instruction`, `Instruction.next`: an instruction and the position just past it
-/

namespace CallAtlas

/-- What an instruction does, as far as control flow and cross references are concerned. -/
inductive Operation where
  /-- Unconditional jump. -/
  | goto (target : Offset)
  /-- Conditional jump. -/
  | branch (target : Offset)
  /-- Jump table; control falls through when no case matches. -/
  | switch (targets : List Offset)
  | return
  | throw
  /-- Call of a method, virtual or not. -/
  | invoke (callee : MethodRef)
  | newInstance (className : String)
  /-- Load of a class literal. -/
  | constClass (className : String)
  | fieldGet (field : FieldRef)
  | fieldPut (field : FieldRef)
  /-- Load of a string literal. -/
  | constString (value : String)
  /-- Any instruction without effect on the analyses. -/
  | other
  /-- Bytes that could not be decoded, with the reason. -/
  | invalid (reason : String)
deriving DecidableEq, Inhabited

namespace Operation

/-- The generic name of an operation. -/
def mnemonic : Operation → String
  | goto _ => "goto"
  | branch _ => "if"
  | switch _ => "switch"
  | .return => "return"
  | .throw => "throw"
  | invoke _ => "invoke"
  | newInstance _ => "new-instance"
  | constClass _ => "const-class"
  | fieldGet _ => "get"
  | fieldPut _ => "put"
  | constString _ => "const-string"
  | other => "nop"
  | invalid _ => "<invalid>"

/-- Whether the operation ends a straight-line run of instructions. -/
def isBranch : Operation → Bool
  | goto _ | branch _ | switch _ | .return | .throw => true
  | _ => false

/-- Whether control can pass to the following instruction. -/
def fallsThrough : Operation → Bool
  | goto _ | .return | .throw => false
  | _ => true

/-- The positions the operation can jump to, in order. -/
def targets : Operation → List Offset
  | goto t | branch t => [t]
  | switch ts => ts
  | _ => []

/-- The method an operation calls. -/
def callee? : Operation → Option MethodRef
  | invoke m => some m
  | _ => none

/-- Whether the operation is a call. -/
def isCall (op : Operation) : Bool := op.callee?.isSome

/-- Whether the operation stands for bytes that could not be decoded. -/
def isInvalid : Operation → Bool
  | invalid _ => true
  | _ => false

/-- Only a branch has targets. -/
theorem targets_eq_nil_of_not_isBranch {op : Operation} (h : op.isBranch = false) :
    op.targets = [] := by
  cases op <;> simp_all [isBranch, targets]

end Operation

/-- An instruction at its position in a method body. -/
structure Instruction where
  addr : Offset
  length : UInt32
  operation : Operation
  opcode : String
  operands : String
deriving DecidableEq, Inhabited

namespace Instruction

/-- The instruction whose text is the generic name of its operation. -/
def plain (addr : Offset) (length : UInt32) (operation : Operation) : Instruction :=
  ⟨addr, length, operation, operation.mnemonic, ""⟩

/-- The position just past the instruction. -/
def next (i : Instruction) : Offset := i.addr.advance i.length

/-- The opcode, followed by the operands if there are any. -/
def text (i : Instruction) : String :=
  if i.operands = "" then i.opcode else i.opcode ++ " " ++ i.operands

end Instruction

end CallAtlas
