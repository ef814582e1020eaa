import CompileWatch.Json.Value

/-!
# Compiled graphs

The control-flow graph of one compilation at two lowering stages.  Blocks are
positional: the blocks at one position of the two passes describe the same basic
block, and successors, predecessors and callers are positions.
-/

namespace CompileWatch

/-- Where a resume point sits relative to its instruction. -/
inductive ResumeMode
  | at
  | after
  | outer
  deriving DecidableEq, Repr, Inhabited

/-- A checkpoint at which execution can fall back to unoptimized code. -/
structure ResumePoint where
  mode : ResumeMode
  /-- Descriptions of the operands: ids of instructions, and separators between the operands of
  nested inlined calls. -/
  operands : List Json.Value := []
  /-- The position of the block with the call that was inlined here. -/
  caller : Option UInt32 := none
  deriving Repr, Inhabited

structure Instruction where
  /-- Unique within its block. -/
  id : UInt32
  opcode : String
  type : Option String := none
  attributes : List String := []
  /-- Ids of the instructions this one depends on through memory. -/
  memInputs : List UInt32 := []
  resumePoint : Option ResumePoint := none
  deriving Repr, Inhabited

structure Block where
  number : UInt32
  instructions : List Instruction := []
  /-- The resume point on entry, which names the caller of an inlined block. -/
  resumePoint : Option ResumePoint := none
  predecessors : List UInt32 := []
  successors : List UInt32 := []
  attributes : List String := []
  deriving Repr, Inhabited

/-- The blocks of one lowering stage. -/
structure Pass where
  blocks : List Block := []
  deriving Repr, Inhabited

/-- The graph of one compilation at both lowering stages. -/
structure Graph where
  mir : Pass := {}
  lir : Pass := {}
  deriving Repr, Inhabited

namespace Instruction

def hasAttribute (instruction : Instruction) (tag : String) : Bool :=
  instruction.attributes.contains tag

/-- Whether the instruction is only computed when execution falls back. -/
def isRecoveredOnBailout (instruction : Instruction) : Bool :=
  instruction.hasAttribute "RecoveredOnBailout"

/-- Whether the instruction may be moved. -/
def isMovable (instruction : Instruction) : Bool :=
  instruction.hasAttribute "Movable"

/-- Whether the instruction is never hoisted out of a loop. -/
def isNeverHoisted (instruction : Instruction) : Bool :=
  instruction.hasAttribute "NeverHoisted"

/-- The type of the result, unless the instruction has none. -/
def resultType? (instruction : Instruction) : Option String :=
  instruction.type.filter (· ≠ "None")

end Instruction

namespace Block

def hasAttribute (block : Block) (tag : String) : Bool :=
  block.attributes.contains tag

/-- Whether the block ends in a jump back to a loop header. -/
def isBackedge (block : Block) : Bool :=
  block.hasAttribute "backedge"

/-- Whether the block is the header of a loop. -/
def isLoopHeader (block : Block) : Bool :=
  block.hasAttribute "loopheader"

/-- Whether the block was inserted to split an edge. -/
def isSplitEdge (block : Block) : Bool :=
  block.hasAttribute "splitedge"

/-- The caller named by the block's resume point, as a word. -/
def callerWord? (block : Block) : Option UInt32 :=
  block.resumePoint.bind ResumePoint.caller

/-- The position of the block with the call that this block was inlined from. -/
def caller? (block : Block) : Option Nat :=
  block.callerWord?.map UInt32.toNat

def firstPredecessor? (block : Block) : Option Nat :=
  block.predecessors.head?.map UInt32.toNat

end Block

end CompileWatch
