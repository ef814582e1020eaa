import CompileWatch.Graph.Basic
import CompileWatch.InlineTree.Basic

/-!
# Rebuilding the inline tree

A compiler does not record the inline tree, but the resume point of an inlined
block names its caller, the position of the block with the call.  The tree is
rebuilt from that, block by block.

* A block without a caller belongs to the root.
* Otherwise the chain of first predecessors is followed to the nearest block with
  a resume point.  If that block has the same caller, both are in one frame.  If
  its caller is a block that itself has the caller we look for, control has
  returned from an inlined call, and the block joins the frame of that call site.
* In every other case the block opens a frame of its own, below the frame of its
  caller.

Blocks for which this meets a position that does not exist, a frame that is not
known yet or a chain that comes back to itself go to the root, with an issue.
-/

namespace CompileWatch.InlineTree

/-- Where a block belongs. -/
inductive Placement
  /-- In a frame that is open already. -/
  | join (frame : FrameId)
  /-- In a new frame for the call at `callSite`. -/
  | opening (parent : FrameId) (callSite : Nat)
  deriving DecidableEq, Repr

section Walk

variable (blocks : List Block) (start : Nat)

/-- Follows first predecessors from `current` to the nearest block with a resume point, on a walk
that began at `start` and may still visit the positions in `unvisited`. -/
def ancestorFrom (unvisited : List Nat) (current : Nat) : Except InlineIssue (Option Nat) :=
  match blocks[current]?.bind Block.firstPredecessor? with
  | none => .ok none
  | some previous =>
    match blocks[previous]? with
    | none => .error (.outOfRange start previous)
    | some block =>
      if hunvisited : previous ∈ unvisited then
        if block.resumePoint.isSome then .ok (some previous)
        else
          have : (unvisited.erase previous).length < unvisited.length := by
            have := List.length_pos_of_mem hunvisited
            rw [List.length_erase_of_mem hunvisited]
            omega
          ancestorFrom (unvisited.erase previous) previous
      else .error (.cycle start previous)
termination_by unvisited.length

/-- The nearest block with a resume point on the chain of first predecessors of `start`, if the
chain has one. -/
def ancestor : Except InlineIssue (Option Nat) :=
  ancestorFrom blocks start ((List.range blocks.length).erase start) start

end Walk

/-- The block at `index`, which is needed for the block at `position`. -/
def requireBlock (blocks : List Block) (position index : Nat) : Except InlineIssue Block :=
  match blocks[index]? with
  | none => .error (.outOfRange position index)
  | some block => .ok block

/-- The frame of the block at `index`, which is needed for the block at `position`. -/
def requireFrame (blocks : List Block) (tree : InlineTree) (position index : Nat) :
    Except InlineIssue FrameId := do
  let _ ← requireBlock blocks position index
  match tree.frameOf? index with
  | none => .error (.unassigned position index)
  | some frame => .ok frame

/-- The position whose frame a block with the given caller joins, if it joins one: the nearest
ancestor with the same caller, or the call site of that ancestor. -/
def joined? (blocks : List Block) (position caller : Nat) : Except InlineIssue (Option Nat) := do
  let some ancestor ← ancestor blocks position | return none
  let some ancestorCaller := blocks[ancestor]?.bind Block.caller? | return none
  if ancestorCaller = caller then return some ancestor
  let enclosing ← requireBlock blocks position ancestorCaller
  if enclosing.caller? = some caller then return some ancestorCaller
  return none

/-- Where the block at `position` belongs, given the tree of the blocks before it. -/
def placement (blocks : List Block) (tree : InlineTree) (position : Nat) :
    Except InlineIssue Placement :=
  match blocks[position]?.bind Block.caller? with
  | none => .ok (.join FrameId.root)
  | some caller => do
    match ← joined? blocks position caller with
    | some index => return .join (← requireFrame blocks tree position index)
    | none => return .opening (← requireFrame blocks tree position caller) caller

/-- Adds the next block to the tree. -/
def place (tree : InlineTree) (script : Option Script) : Except InlineIssue Placement → InlineTree
  | .ok (.join frame) => { tree with blockFrames := tree.blockFrames ++ [frame] }
  | .ok (.opening parent callSite) =>
    let id : FrameId := ⟨tree.frames.length⟩
    { tree with
      frames := tree.frames ++ [{ parent := parent, style := id.index, script, callSite }]
      blockFrames := tree.blockFrames ++ [id] }
  | .error issue =>
    { tree with
      blockFrames := tree.blockFrames ++ [FrameId.root]
      issues := tree.issues ++ [issue] }

/-- The tree before any block is placed, with the root alone. -/
def seed (scripts : List Script) : InlineTree :=
  { frames := [{ script := scripts.head? }], blockFrames := [], issues := [] }

/-- Rebuilds the inline tree of a compilation.  The script at a position is the one that a frame
opened there belongs to, and the first script is that of the compiled function. -/
def rebuild (blocks : List Block) (scripts : List Script) : InlineTree :=
  (List.range blocks.length).foldl
    (fun tree position => tree.place scripts[position]? (placement blocks tree position))
    (seed scripts)

end CompileWatch.InlineTree
