import CompileWatch.Graph.Basic
import CompileWatch.Json.Field

/-!
# Graphs as JSON

A graph is read from the object that a compiler writes.  Fields that are not
known are ignored, most fields may be left out, and a whole graph or pass may be
`null`.  Writing names every field.
-/

namespace CompileWatch

open Json.Value

/-! ## Reading -/

/-- Reads a mode from its exact name. -/
def ResumeMode.ofJson? (value : Json.Value) : Option ResumeMode := do
  let name ← value.choice?
  if name = "At" then return .at
  else if name = "After" then return .after
  else if name = "Outer" then return .outer
  else none

def ResumePoint.ofJson? (value : Json.Value) : Option ResumePoint := do
  let members ← value.members?
  let mode ← field? ResumeMode.ofJson? "mode" members
  let operands ← fieldOr? [] (toList? fun operand => some operand.merged) "operands" members
  let caller ← fieldOr? none (toOption? toUInt32?) "caller" members
  return { mode, operands, caller }

def Instruction.ofJson? (value : Json.Value) : Option Instruction := do
  let members ← value.members?
  let id ← field? toUInt32? "id" members
  let opcode ← field? toText? "opcode" members
  let type ← fieldOr? none (toOption? toText?) "type" members
  let attributes ← fieldOr? [] (toList? toText?) "attributes" members
  let memInputs ← fieldOr? [] (toList? toUInt32?) "memInputs" members
  let resumePoint ← fieldOr? none (toOption? ResumePoint.ofJson?) "resumePoint" members
  return { id, opcode, type, attributes, memInputs, resumePoint }

def Block.ofJson? (value : Json.Value) : Option Block := do
  let members ← value.members?
  let number ← field? toUInt32? "number" members
  let instructions ← fieldOr? [] (toList? Instruction.ofJson?) "instructions" members
  let resumePoint ← fieldOr? none (toOption? ResumePoint.ofJson?) "resumePoint" members
  let predecessors ← fieldOr? [] (toList? toUInt32?) "predecessors" members
  let successors ← fieldOr? [] (toList? toUInt32?) "successors" members
  let attributes ← fieldOr? [] (toList? toText?) "attributes" members
  return { number, instructions, resumePoint, predecessors, successors, attributes }

/-- Reads a pass from an object, or from `null`. -/
def Pass.ofJson? : Json.Value → Option Pass
  | .null => some {}
  | value => do
    let members ← value.members?
    let blocks ← fieldOr? [] (toList? Block.ofJson?) "blocks" members
    return { blocks }

/-- Reads a graph from an object, or from `null`. -/
def Graph.ofJson? : Json.Value → Option Graph
  | .null => some {}
  | value => do
    let members ← value.members?
    let mir ← fieldOr? {} Pass.ofJson? "mir" members
    let lir ← fieldOr? {} Pass.ofJson? "lir" members
    return { mir, lir }

/-! ## Writing -/

def ResumeMode.name : ResumeMode → String
  | .at => "At"
  | .after => "After"
  | .outer => "Outer"

/-- A word of 32 bits as a number. -/
def wordToJson (word : UInt32) : Json.Value :=
  natural word.toNat

def ResumePoint.toJson (point : ResumePoint) : Json.Value :=
  .object [("mode", .string point.mode.name),
    ("operands", .array point.operands),
    ("caller", ofOption wordToJson point.caller)]

def Instruction.toJson (instruction : Instruction) : Json.Value :=
  .object [("id", wordToJson instruction.id),
    ("opcode", .string instruction.opcode),
    ("type", ofOption .string instruction.type),
    ("attributes", ofList .string instruction.attributes),
    ("memInputs", ofList wordToJson instruction.memInputs),
    ("resumePoint", ofOption ResumePoint.toJson instruction.resumePoint)]

def Block.toJson (block : Block) : Json.Value :=
  .object [("number", wordToJson block.number),
    ("instructions", ofList Instruction.toJson block.instructions),
    ("resumePoint", ofOption ResumePoint.toJson block.resumePoint),
    ("predecessors", ofList wordToJson block.predecessors),
    ("successors", ofList wordToJson block.successors),
    ("attributes", ofList .string block.attributes)]

def Pass.toJson (pass : Pass) : Json.Value :=
  .object [("blocks", ofList Block.toJson pass.blocks)]

def Graph.toJson (graph : Graph) : Json.Value :=
  .object [("mir", graph.mir.toJson), ("lir", graph.lir.toJson)]

end CompileWatch
