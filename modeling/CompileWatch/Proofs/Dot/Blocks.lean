import CompileWatch.Dot.Drawing
import CompileWatch.Proofs.Text.Assoc
import Mathlib.Data.List.Forall2

/-!
# Drawings of blocks

A drawing of blocks reads three lists at the same positions: the blocks of the pass that is
shown, the blocks of the upper pass, which mark the nodes and give the edges, and the
frames of the tree.  The lists may have different lengths.  `DrawsBlocks` says what the
document then is: `Shows` describes the node of a block and `Leads` an edge, which is
known by its origin, the position of a block and the place of one of its successors.

Of a block that is shown, only its label depends on more than its number
(`unlabelled_blockNode`).  So two passes with the same numbers have the same drawing but
for the labels (`AlikeButLabels`).
-/

namespace CompileWatch.Dot

variable {graph : Graph} {tree : InlineTree} {scripts : List Script} {blocks others : List Block}
  {block : Block} {upper : Option Block} {frame : FrameId} {document : Document}

/-! ## What is drawn -/

/-- The node shows a block in its frame, with the marks of the upper block at its position. -/
structure Shows (block : Block) (upper : Option Block) (frame : FrameId) (node : Node) : Prop where
  name : node.name = "Block" ++ toString block.number.toNat
  label : node.attributes.get? "label" = some (.label (blockLabel block).render)
  frame : node.attributes.get? "class" = some (.quoted ("style-frame-" ++ toString frame.index))
  green : node.attributes.get? "color" = some (.word "green") ↔
    ∃ marked ∈ upper, marked.isLoopHeader
  red : node.attributes.get? "color" = some (.word "red") ↔
    ∃ marked ∈ upper, marked.isBackedge ∧ ¬ marked.isLoopHeader
  plain : node.attributes.get? "color" = none ↔
    ∀ marked ∈ upper, ¬ marked.isBackedge ∧ ¬ marked.isLoopHeader
  dashed : node.attributes.get? "style" = some (.word "dashed") ↔
    ∃ marked ∈ upper, marked.isSplitEdge
  solid : node.attributes.get? "style" = none ↔ ∀ marked ∈ upper, ¬ marked.isSplitEdge

/-- The successors of the upper block at a position, if there is such a block. -/
def successorsAt (graph : Graph) (position : Nat) : List UInt32 :=
  (graph.mir.blocks[position]?.map Block.successors).getD []

/-- The origins of edges, in order: the position of a block and the place of a successor. -/
def origins (graph : Graph) (count : Nat) : List (Nat × Nat) :=
  (List.range count).flatMap fun position =>
    (List.range (successorsAt graph position).length).map fun place => (position, place)

/-- The edge has this origin: it leads from the node of the block to the name that stands for the
successor, and is labelled if the block has two successors. -/
structure Leads (graph : Graph) (nodes : List Node) (origin : Nat × Nat) (edge : Edge) : Prop where
  source : nodes[origin.1]?.map Node.name = some edge.source
  target : (successorsAt graph origin.1)[origin.2]?.map
    (fun successor => "Block" ++ toString successor.toNat) = some edge.target
  label : edge.attributes =
    if (successorsAt graph origin.1).length = 2 then
      [("label", .word (if origin.2 = 0 then "1" else "0"))]
    else []

/-- The document draws some blocks: it has a node for each, in order, and an edge for each
origin. -/
structure DrawsBlocks (graph : Graph) (tree : InlineTree) (blocks : List Block)
    (document : Document) : Prop where
  nodes : List.Forall₂
    (fun (entry : Block × Nat) node => Shows entry.1 graph.mir.blocks[entry.2]?
      ((tree.frameOf? entry.2).getD FrameId.root) node)
    blocks.zipIdx document.nodes
  edges : List.Forall₂ (Leads graph document.nodes) (origins graph blocks.length) document.edges

/-! ## Nodes -/

/-- The colour of a block: that of a loop header wins over that of a jump back. -/
def colour? (marked : Block) : Option Value :=
  if marked.isLoopHeader then some (.word "green")
  else if marked.isBackedge then some (.word "red") else none

theorem colour?_eq_green {marked : Block} :
    colour? marked = some (.word "green") ↔ marked.isLoopHeader := by
  unfold colour?
  cases marked.isLoopHeader <;> cases marked.isBackedge <;> simp

theorem colour?_eq_red {marked : Block} :
    colour? marked = some (.word "red") ↔ marked.isBackedge ∧ ¬ marked.isLoopHeader := by
  unfold colour?
  cases marked.isLoopHeader <;> cases marked.isBackedge <;> simp

theorem colour?_eq_none {marked : Block} :
    colour? marked = none ↔ ¬ marked.isBackedge ∧ ¬ marked.isLoopHeader := by
  unfold colour?
  cases marked.isLoopHeader <;> cases marked.isBackedge <;> simp

/-- The marks that a block leaves on its node. -/
def marks (marked : Block) : Attributes :=
  ((colour? marked).map fun colour => ("color", colour)).toList ++
    if marked.isSplitEdge then [("style", .word "dashed")] else []

/-- The attributes of a node, each of which is there once. -/
theorem attributes_blockNode (block : Block) (upper : Option Block) (frame : FrameId) :
    (blockNode block upper frame).attributes =
      [("shape", .word "box"), ("label", .label (blockLabel block).render)] ++
        (upper.map marks).getD [] ++ [("class", styleClass frame)] := by
  cases upper with
  | none => simp [blockNode, Assoc.ofSets, Assoc.set]
  | some marked =>
      cases hheader : marked.isLoopHeader <;> cases hbackedge : marked.isBackedge <;>
        cases hsplit : marked.isSplitEdge <;>
        simp [blockNode, decoration, marks, colour?, Assoc.ofSets, Assoc.set, hheader, hbackedge,
          hsplit]

theorem get?_color_marks (marked : Block) : Assoc.get? "color" (marks marked) = colour? marked := by
  unfold marks
  rw [Assoc.get?_append]
  cases colour? marked with
  | none => split <;> rfl
  | some colour => rfl

theorem get?_style_marks (marked : Block) :
    Assoc.get? "style" (marks marked) =
      if marked.isSplitEdge then some (.word "dashed") else none := by
  unfold marks
  rw [Assoc.get?_append]
  cases colour? marked <;> split <;> rfl

theorem get?_class_marks (marked : Block) : Assoc.get? "class" (marks marked) = none := by
  unfold marks
  rw [Assoc.get?_append]
  cases colour? marked <;> split <;> rfl

/-- The colour and the style of a node are marks of the upper block. -/
theorem get?_mark {key : String} (hkey : key ∉ ["shape", "label", "class"]) :
    (blockNode block upper frame).attributes.get? key =
      upper.bind fun marked => Assoc.get? key (marks marked) := by
  have hbefore : Assoc.get? key [("shape", Value.word "box"),
      ("label", .label (blockLabel block).render)] = none := by
    apply Assoc.get?_of_notMem
    simp_all
  have hafter : Assoc.get? key [("class", styleClass frame)] = none := by
    apply Assoc.get?_of_notMem
    simp_all
  rw [attributes_blockNode, Assoc.get?_append, Assoc.get?_append, hbefore, hafter]
  cases upper <;> simp [Assoc.get?_nil]

theorem get?_class_blockNode :
    (blockNode block upper frame).attributes.get? "class" = some (styleClass frame) := by
  rw [attributes_blockNode, Assoc.get?_append, Assoc.get?_append]
  cases upper with
  | none => rfl
  | some marked => rw [Option.map_some, Option.getD_some, get?_class_marks]; rfl

theorem shows_blockNode (block : Block) (upper : Option Block) (frame : FrameId) :
    Shows block upper frame (blockNode block upper frame) := by
  have hcolour : (blockNode block upper frame).attributes.get? "color" = upper.bind colour? := by
    have hkey : "color" ∉ ["shape", "label", "class"] := by decide
    rw [get?_mark hkey]
    simp only [get?_color_marks]
  have hstyle : (blockNode block upper frame).attributes.get? "style" =
      upper.bind fun marked => if marked.isSplitEdge then some (.word "dashed") else none := by
    have hkey : "style" ∉ ["shape", "label", "class"] := by decide
    rw [get?_mark hkey]
    simp only [get?_style_marks]
  constructor
  case name => rfl
  case label => rw [attributes_blockNode]; rfl
  case frame => exact get?_class_blockNode
  case green => rw [hcolour]; cases upper <;> simp [colour?_eq_green]
  case red => rw [hcolour]; cases upper <;> simp [colour?_eq_red]
  case plain => rw [hcolour]; cases upper <;> simp [colour?_eq_none]
  case dashed => rw [hstyle]; cases upper <;> simp
  case solid => rw [hstyle]; cases upper <;> simp

/-! ## Edges -/

theorem forall₂_flatMap {α β γ : Type} {R : β → γ → Prop} {f : α → List β} {g : α → List γ}
    {l : List α} (hrelated : ∀ a ∈ l, List.Forall₂ R (f a) (g a)) :
    List.Forall₂ R (l.flatMap f) (l.flatMap g) := by
  have hsame : List.Forall₂ (fun a b => a = b ∧ a ∈ l) l l :=
    List.forall₂_same.mpr fun a ha => ⟨rfl, ha⟩
  refine List.rel_flatMap hsame ?_
  rintro a _ ⟨rfl, ha⟩
  exact hrelated a ha

theorem range_eq_zipIdx {α : Type} (l : List α) :
    List.range l.length = l.zipIdx.map Prod.snd := by
  rw [List.zipIdx_map_snd, List.range_eq_range']

theorem origins_eq (graph : Graph) (blocks : List Block) :
    origins graph blocks.length = blocks.zipIdx.flatMap fun entry =>
      (successorsAt graph entry.2).zipIdx.map fun successor => (entry.2, successor.2) := by
  unfold origins
  rw [range_eq_zipIdx, List.flatMap_map]
  simp only [range_eq_zipIdx, List.map_map]
  rfl

theorem leads_blockEdges {nodes : List Node} {position : Nat}
    (hnode : nodes[position]?.map Node.name = some (blockName block.number)) :
    List.Forall₂ (Leads graph nodes)
      ((successorsAt graph position).zipIdx.map fun successor => (position, successor.2))
      (blockEdges block graph.mir.blocks[position]?) := by
  unfold blockEdges
  rw [List.forall₂_map_left_iff, List.forall₂_map_right_iff]
  apply List.forall₂_same.mpr
  rintro ⟨successor, place⟩ hplace
  have hsuccessor := List.mk_mem_zipIdx_iff_getElem?.mp hplace
  refine ⟨hnode, ?_, rfl⟩
  rw [hsuccessor]
  rfl

theorem leads_passEdges {nodes : List Node}
    (hnodes : ∀ entry ∈ blocks.zipIdx,
      nodes[entry.2]?.map Node.name = some (blockName entry.1.number)) :
    List.Forall₂ (Leads graph nodes) (origins graph blocks.length) (passEdges blocks graph) := by
  rw [origins_eq]
  apply forall₂_flatMap
  rintro ⟨block, position⟩ hentry
  exact leads_blockEdges (hnodes _ hentry)

/-! ## Documents -/

theorem getElem?_name_blockNodes (blocks : List Block) (graph : Graph) (tree : InlineTree)
    (position : Nat) :
    (blockNodes blocks graph tree)[position]?.map Node.name =
      (blocks[position]?.map Block.number).map blockName := by
  unfold blockNodes
  rw [List.getElem?_map, List.getElem?_zipIdx, Option.map_map, Option.map_map, Option.map_map]
  rfl

/-- A document with these nodes and edges draws the blocks. -/
theorem drawsBlocks (blocks : List Block) (graph : Graph) (tree : InlineTree)
    (hnodes : document.nodes = blockNodes blocks graph tree)
    (hedges : document.edges = passEdges blocks graph) :
    DrawsBlocks graph tree blocks document where
  nodes := by
    rw [hnodes, blockNodes, List.forall₂_map_right_iff]
    apply List.forall₂_same.mpr
    rintro ⟨block, position⟩ -
    exact shows_blockNode block _ _
  edges := by
    rw [hnodes, hedges]
    apply leads_passEdges
    rintro ⟨block, position⟩ hentry
    rw [getElem?_name_blockNodes, List.mk_mem_zipIdx_iff_getElem?.mp hentry]
    rfl

/-! ## Two passes with the same numbers -/

/-- The node without its label. -/
def Node.unlabelled (node : Node) : Node :=
  { node with attributes := node.attributes.filter fun pair => pair.1 ≠ "label" }

/-- The documents are the same but for their names and the labels of their nodes. -/
structure AlikeButLabels (first second : Document) : Prop where
  attributes : first.attributes = second.attributes
  nodes : first.nodes.map Node.unlabelled = second.nodes.map Node.unlabelled
  edges : first.edges = second.edges

theorem unlabelled_blockNode {other : Block} (hnumber : block.number = other.number) :
    (blockNode block upper frame).unlabelled = (blockNode other upper frame).unlabelled := by
  have hname : (blockNode block upper frame).name = (blockNode other upper frame).name :=
    congrArg blockName hnumber
  unfold Node.unlabelled
  rw [attributes_blockNode, attributes_blockNode, hname]
  simp

/-- What is read off the number of a block and its position is the same for both passes. -/
theorem map_zipIdx_of_numbers {α : Type} {f : Block × Nat → α}
    (hnumbers : blocks.map Block.number = others.map Block.number)
    (hreads : ∀ {block other : Block} (position : Nat), block.number = other.number →
      f (block, position) = f (other, position)) :
    blocks.zipIdx.map f = others.zipIdx.map f := by
  apply List.ext_getElem?
  intro position
  have hnumber : blocks[position]?.map Block.number = others[position]?.map Block.number := by
    rw [← List.getElem?_map, hnumbers, List.getElem?_map]
  rw [List.getElem?_map, List.getElem?_map, List.getElem?_zipIdx, List.getElem?_zipIdx]
  cases hblock : blocks[position]? with
  | none =>
      rw [hblock] at hnumber
      rw [Option.map_eq_none_iff.mp hnumber.symm]
  | some block =>
      rw [hblock] at hnumber
      obtain ⟨other, hother, hsame⟩ := Option.map_eq_some_iff.mp hnumber.symm
      rw [hother]
      exact congrArg some (hreads _ hsame.symm)

theorem alikeButLabels_draw
    (hnumbers : graph.mir.blocks.map Block.number = graph.lir.blocks.map Block.number) :
    AlikeButLabels (draw .mir graph scripts tree) (draw .lir graph scripts tree) where
  attributes := rfl
  nodes := by
    show (blockNodes graph.mir.blocks graph tree).map Node.unlabelled =
      (blockNodes graph.lir.blocks graph tree).map Node.unlabelled
    rw [blockNodes, blockNodes, List.map_map, List.map_map]
    exact map_zipIdx_of_numbers hnumbers fun _ hnumber => unlabelled_blockNode hnumber
  edges := by
    show passEdges graph.mir.blocks graph = passEdges graph.lir.blocks graph
    rw [passEdges, passEdges, List.flatMap_def, List.flatMap_def]
    apply congrArg List.flatten
    apply map_zipIdx_of_numbers hnumbers
    intro block other position hnumber
    simp only [blockEdges, hnumber]

/-- **Drawings of blocks.**  The drawing of either pass has a node for each block of the pass, in
order, which is named for the number of the block, labelled with its content, and of the class of
the frame at its position (the root's, if there is none).  It is green if the upper block at that
position is a loop header, red if that is a jump back only, and dashed if that was inserted to split
an edge.  The edges are those of the upper blocks at the positions of the pass, in order; both edges
of a block with two successors are labelled, `1` and `0`, and no others are.  If both passes have
the same numbers, their drawings differ in their names and labels only. -/
theorem blocks_drawn (graph : Graph) (scripts : List Script) (tree : InlineTree) :
    DrawsBlocks graph tree graph.mir.blocks (draw .mir graph scripts tree) ∧
    DrawsBlocks graph tree graph.lir.blocks (draw .lir graph scripts tree) ∧
    (graph.mir.blocks.map Block.number = graph.lir.blocks.map Block.number →
      AlikeButLabels (draw .mir graph scripts tree) (draw .lir graph scripts tree)) := by
  refine ⟨?_, ?_, ?_⟩
  · exact drawsBlocks graph.mir.blocks graph tree rfl rfl
  · exact drawsBlocks graph.lir.blocks graph tree rfl rfl
  · intro hnumbers
    exact alikeButLabels_draw hnumbers

/-- Block 0 is a loop header and ends in a jump back.  It has two successors, to the second of which
a block leads that was inserted to split an edge. -/
def sampleLoop : Graph where
  mir.blocks :=
    [{ number := 0, successors := [1, 2], attributes := ["backedge", "loopheader"] },
      { number := 1, successors := [2], attributes := ["splitedge"] }, { number := 2 }]
  lir.blocks :=
    [{ number := 0, instructions := [{ id := 4, opcode := "Goto" }] }, { number := 1 },
      { number := 2 }]

theorem sampleLoop_drawn :
    sampleLoop.mir.blocks.map Block.number = sampleLoop.lir.blocks.map Block.number ∧
      AlikeButLabels (draw .mir sampleLoop [] default) (draw .lir sampleLoop [] default) ∧
      (draw .lir sampleLoop [] default).edges =
        [{ source := "Block0", target := "Block1", attributes := [("label", .word "1")] },
          { source := "Block0", target := "Block2", attributes := [("label", .word "0")] },
          { source := "Block1", target := "Block2" }] := by
  have hnumbers : sampleLoop.mir.blocks.map Block.number =
      sampleLoop.lir.blocks.map Block.number := rfl
  obtain ⟨-, -, halike⟩ := blocks_drawn sampleLoop [] default
  refine ⟨hnumbers, halike hnumbers, ?_⟩
  rw [← (halike hnumbers).edges]
  decide +kernel

end CompileWatch.Dot
