import CompileWatch.Script

/-!
# Inline trees

The calls that a compiler inlined into one compilation form a tree of frames.  The
root is the compiled function itself, and every other frame was opened for a call
site inside its parent.  Each block of the compilation belongs to one frame.

Frames are numbered in the order in which they were opened, so that a parent has a
smaller number than its children.
-/

namespace CompileWatch

/-- The number of a frame within its tree.  Numbers have no bound here: results speak of trees of
fewer than `2 ^ 32` frames, whose numbers fit into 32 bits.  A tree has at most one frame more than
its compilation has blocks. -/
structure FrameId where
  index : Nat
  deriving DecidableEq, Repr, Inhabited

namespace FrameId

/-- The frame of the compiled function itself. -/
def root : FrameId := ⟨0⟩

/-- The number behind the letter that stands for frames. -/
def text (id : FrameId) : String :=
  "F" ++ toString id.index

end FrameId

/-- One inlined call, or the compiled function itself. -/
structure InlineFrame where
  /-- The frame with the call site, absent for the root only. -/
  parent : Option FrameId := none
  /-- The style class with which blocks of the frame are drawn.  It is the number of the frame, with
  the same bound. -/
  style : Nat := 0
  /-- The script of the function that was inlined, if it is known. -/
  script : Option Script := none
  /-- The position of the block with the call, absent for the root only. -/
  callSite : Option Nat := none
  deriving DecidableEq, Repr, Inhabited

/-- A block for which no frame could be found.  It is placed in the root frame. -/
inductive InlineIssue
  /-- The chain of first predecessors from `block` comes back to `revisited`. -/
  | cycle (block revisited : Nat)
  /-- The position `index` that is needed for `block` does not exist. -/
  | outOfRange (block index : Nat)
  /-- The frame of `referenced` is needed for `block` and is not known yet. -/
  | unassigned (block referenced : Nat)
  deriving DecidableEq, Repr

namespace InlineIssue

def block : InlineIssue → Nat
  | .cycle block _ => block
  | .outOfRange block _ => block
  | .unassigned block _ => block

def message : InlineIssue → String
  | .cycle block revisited =>
    "block " ++ toString block ++ ": predecessor chain loops back to block " ++ toString revisited
  | .outOfRange block index =>
    "block " ++ toString block ++ ": references missing block " ++ toString index
  | .unassigned block referenced =>
    "block " ++ toString block ++ ": depends on block " ++ toString referenced ++
      ", which comes later"

end InlineIssue

/-- The frames of one compilation, with the frame of each block. -/
structure InlineTree where
  frames : List InlineFrame
  /-- The frame of each block, by position. -/
  blockFrames : List FrameId
  /-- The blocks that could not be placed, in order. -/
  issues : List InlineIssue
  deriving DecidableEq, Repr, Inhabited

namespace InlineTree

def frame? (tree : InlineTree) (id : FrameId) : Option InlineFrame :=
  tree.frames[id.index]?

def frameOf? (tree : InlineTree) (block : Nat) : Option FrameId :=
  tree.blockFrames[block]?

def parent? (tree : InlineTree) (id : FrameId) : Option FrameId :=
  (tree.frame? id).bind InlineFrame.parent

def frameIds (tree : InlineTree) : List FrameId :=
  (List.range tree.frames.length).map FrameId.mk

/-- The frames whose parent is the given one, in order. -/
def children (tree : InlineTree) (id : FrameId) : List FrameId :=
  tree.frameIds.filter fun child => tree.parent? child = some id

/-- The positions of the blocks of a frame, in order. -/
def blocksIn (tree : InlineTree) (id : FrameId) : List Nat :=
  (List.range tree.blockFrames.length).filter fun block => tree.frameOf? block = some id

/-- The number of frames above a frame.  Parents have smaller numbers, so the chain of parents
ends; a parent with a number that is not smaller would not be followed. -/
def depth (tree : InlineTree) (id : FrameId) : Nat :=
  match tree.parent? id with
  | none => 0
  | some parent => if parent.index < id.index then tree.depth parent + 1 else 0
termination_by id.index

end InlineTree

end CompileWatch
