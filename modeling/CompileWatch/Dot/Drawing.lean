import CompileWatch.DisplayMode
import CompileWatch.Dot.Document
import CompileWatch.Dot.Label

/-!
# Drawing a compilation

A compilation is drawn as a graph document.  The two block modes show the blocks
of one pass, but colours and edges always come from the block of the upper pass at
the same position, so that the two drawings agree.  The source mode shows the
inline tree.
-/

namespace CompileWatch.Dot

def styleClass (id : FrameId) : Value :=
  .quoted ("style-frame-" ++ toString id.index)

/-! ## Blocks -/

/-- The name of the node for the block with the given number. -/
def blockName (number : UInt32) : String :=
  "Block" ++ toString number.toNat

/-- The attributes that mark a loop header, a jump back or a split edge.  The colour of a loop
header wins over that of a jump back. -/
def decoration (block : Block) : List (String × Value) :=
  (if block.isBackedge then [("color", .word "red")] else []) ++
    (if block.isLoopHeader then [("color", .word "green")] else []) ++
    (if block.isSplitEdge then [("style", .word "dashed")] else [])

/-- The node of a block of the pass that is shown, given the upper block at the same position and
the frame that the block belongs to. -/
def blockNode (block : Block) (upper : Option Block) (frame : FrameId) : Node where
  name := blockName block.number
  attributes := Assoc.ofSets
    ([("shape", .word "box"), ("label", .label (blockLabel block).render)] ++
      (upper.map decoration).getD [] ++ [("class", styleClass frame)])

/-- The label of the edge to the successor at `position`: only an edge out of a block with two
successors has one, `1` for the first and `0` for the second. -/
def edgeLabel (successors : List UInt32) (position : Nat) : Attributes :=
  if successors.length = 2 then [("label", .word (if position = 0 then "1" else "0"))] else []

/-- The edges out of a block of the pass that is shown, given the upper block at the same
position. -/
def blockEdges (block : Block) (upper : Option Block) : List Edge :=
  let successors := (upper.map Block.successors).getD []
  successors.zipIdx.map fun (successor, position) =>
    { source := blockName block.number
      target := blockName successor
      attributes := edgeLabel successors position }

def blockNodes (blocks : List Block) (graph : Graph) (tree : InlineTree) : List Node :=
  blocks.zipIdx.map fun (block, position) =>
    blockNode block graph.mir.blocks[position]? ((tree.frameOf? position).getD FrameId.root)

def passEdges (blocks : List Block) (graph : Graph) : List Edge :=
  blocks.zipIdx.flatMap fun (block, position) => blockEdges block graph.mir.blocks[position]?

/-! ## Frames -/

def frameName (id : FrameId) : String :=
  "Frame" ++ toString id.index

/-- The node of a frame.  The root falls back to the first script of the compilation. -/
def frameNode (scripts : List Script) (id : FrameId) (frame : InlineFrame) : Node where
  name := frameName id
  attributes := Assoc.ofSets
    [("shape", .word "box"),
      ("label", .label (frameLabel id
        (frame.script.or (if id = FrameId.root then scripts.head? else none))).render),
      ("class", styleClass id)]

/-- The edge from the parent of a frame. -/
def frameEdge? (id : FrameId) (frame : InlineFrame) : Option Edge :=
  frame.parent.map fun parent => { source := frameName parent, target := frameName id }

/-- The frames of a tree with their numbers. -/
def numberedFrames (tree : InlineTree) : List (FrameId × InlineFrame) :=
  tree.frames.zipIdx.map fun (frame, index) => (⟨index⟩, frame)

/-! ## Documents -/

/-- The nodes of a drawing. -/
def nodes (mode : DisplayMode) (graph : Graph) (scripts : List Script) (tree : InlineTree) :
    List Node :=
  match mode with
  | .mir => blockNodes graph.mir.blocks graph tree
  | .lir => blockNodes graph.lir.blocks graph tree
  | .src => (numberedFrames tree).map fun (id, frame) => frameNode scripts id frame

/-- The edges of a drawing. -/
def edges (mode : DisplayMode) (graph : Graph) (tree : InlineTree) : List Edge :=
  match mode with
  | .mir => passEdges graph.mir.blocks graph
  | .lir => passEdges graph.lir.blocks graph
  | .src => (numberedFrames tree).filterMap fun (id, frame) => frameEdge? id frame

/-- The drawing of a compilation. -/
def draw (mode : DisplayMode) (graph : Graph) (scripts : List Script) (tree : InlineTree) :
    Document where
  name := mode.name
  attributes := [("rankdir", .word "TB"), ("splines", .word "true")]
  nodes := nodes mode graph scripts tree
  edges := edges mode graph tree

/-- The text of the drawing of a compilation. -/
def drawing (mode : DisplayMode) (graph : Graph) (scripts : List Script) (tree : InlineTree) :
    String :=
  (draw mode graph scripts tree).render

end CompileWatch.Dot
