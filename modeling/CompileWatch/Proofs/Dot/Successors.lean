import CompileWatch.Proofs.Dot.Blocks
import CompileWatch.Proofs.Dot.Drawing

/-!
# Edges and the blocks they mean

A successor is the position of a block, but nodes are named for the numbers of blocks, and
an edge leads to the node whose name is made of the successor.  It reaches the block that is
meant only if the number of that block is its position.

`edges_reach_iff` says for which compilations all edges lead from the node of their block
to the node of the successor.  Blocks that are numbered by their positions are among them.
A compilation that numbers its blocks in another way has edges that lead astray, to a node
that is not declared or to that of another block (`edge_misses_block`).
-/

namespace CompileWatch.Dot

variable {graph : Graph} {tree : InlineTree} {scripts : List Script} {blocks : List Block}
  {block : Block} {position count : Nat} {number : UInt32} {origin : Nat × Nat} {edge : Edge}

/-- The node at the position has the name, and it is the only one. -/
def NamesAlone (nodes : List Node) (name : String) (position : Nat) : Prop :=
  ∀ other, nodes[other]?.map Node.name = some name ↔ other = position

/-- The edge leads from the node of the block that it stems from to the node of the successor. -/
def Reaches (graph : Graph) (nodes : List Node) (origin : Nat × Nat) (edge : Edge) : Prop :=
  ∃ successor, (successorsAt graph origin.1)[origin.2]? = some successor ∧
    NamesAlone nodes edge.source origin.1 ∧ NamesAlone nodes edge.target successor.toNat

/-- The block at the position has the number, and it is the only one. -/
def NumbersAlone (blocks : List Block) (number : UInt32) (position : Nat) : Prop :=
  ∀ other, blocks[other]?.map Block.number = some number ↔ other = position

/-! ## Names and numbers -/

theorem blockName_injective : Function.Injective blockName := by
  intro first second hname
  exact UInt32.toNat_inj.mp (numbered_injective "Block" hname)

theorem namesAlone_iff :
    NamesAlone (blockNodes blocks graph tree) (blockName number) position ↔
      NumbersAlone blocks number position := by
  unfold NamesAlone NumbersAlone
  apply forall_congr'
  intro other
  have hsome : some (blockName number) = (some number).map blockName := rfl
  rw [getElem?_name_blockNodes, hsome, (Option.map_injective blockName_injective).eq_iff]

/-- With positions for numbers, each number is that of one block. -/
theorem numbersAlone_of_positions
    (hnumbers : ∀ (position : Nat) (block : Block), blocks[position]? = some block →
      block.number.toNat = position)
    (hlt : number.toNat < blocks.length) : NumbersAlone blocks number number.toNat := by
  intro other
  constructor
  · intro hother
    obtain ⟨block, hblock, hnumber⟩ := Option.map_eq_some_iff.mp hother
    rw [← hnumbers other block hblock, hnumber]
  · rintro rfl
    have hblock := List.getElem?_eq_getElem hlt
    have hnumber : blocks[number.toNat].number = number :=
      UInt32.toNat_inj.mp (hnumbers _ _ hblock)
    rw [hblock, Option.map_some, hnumber]

/-! ## Edges -/

/-- The block of an origin and the block of its successor are each the only one with the number
that stands in the edge. -/
def Fits (graph : Graph) (origin : Nat × Nat) : Prop :=
  ∃ block successor, graph.mir.blocks[origin.1]? = some block ∧
    block.successors[origin.2]? = some successor ∧
    NumbersAlone graph.mir.blocks block.number origin.1 ∧
    NumbersAlone graph.mir.blocks successor successor.toNat

theorem successorsAt_of_getElem? (hblock : graph.mir.blocks[position]? = some block) :
    successorsAt graph position = block.successors := by
  rw [successorsAt, hblock]
  rfl

/-- The edge of an origin reaches its successor if the numbers fit. -/
theorem Leads.reaches_iff
    (hleads : Leads graph (blockNodes graph.mir.blocks graph tree) origin edge) :
    Reaches graph (blockNodes graph.mir.blocks graph tree) origin edge ↔ Fits graph origin := by
  obtain ⟨hsource, htarget, -⟩ := hleads
  rw [getElem?_name_blockNodes, Option.map_map] at hsource
  obtain ⟨block, hblock, hname⟩ := Option.map_eq_some_iff.mp hsource
  obtain ⟨successor, hsuccessor, hgoal⟩ := Option.map_eq_some_iff.mp htarget
  have hnames : NamesAlone (blockNodes graph.mir.blocks graph tree) edge.source origin.1 ↔
      NumbersAlone graph.mir.blocks block.number origin.1 := by
    rw [← hname]
    exact namesAlone_iff
  have hgoals : NamesAlone (blockNodes graph.mir.blocks graph tree) edge.target successor.toNat ↔
      NumbersAlone graph.mir.blocks successor successor.toNat := by
    rw [← hgoal]
    exact namesAlone_iff
  constructor
  · rintro ⟨other, hother, hfrom, hto⟩
    obtain rfl : successor = other := Option.some_inj.mp (hsuccessor.symm.trans hother)
    rw [successorsAt_of_getElem? hblock] at hsuccessor
    exact ⟨block, successor, hblock, hsuccessor, hnames.mp hfrom, hgoals.mp hto⟩
  · rintro ⟨other, next, hother, hnext, hfrom, hto⟩
    obtain rfl : block = other := Option.some_inj.mp (hblock.symm.trans hother)
    rw [← successorsAt_of_getElem? hblock] at hnext
    obtain rfl : successor = next := Option.some_inj.mp (hsuccessor.symm.trans hnext)
    exact ⟨successor, hsuccessor, hnames.mpr hfrom, hgoals.mpr hto⟩

theorem mem_origins {place : Nat} :
    (position, place) ∈ origins graph count ↔
      position < count ∧ place < (successorsAt graph position).length := by
  unfold origins
  simp

theorem forall_fits_iff :
    (∀ origin ∈ origins graph graph.mir.blocks.length, Fits graph origin) ↔
      ∀ position block, graph.mir.blocks[position]? = some block →
        ∀ successor ∈ block.successors, NumbersAlone graph.mir.blocks block.number position ∧
          NumbersAlone graph.mir.blocks successor successor.toNat := by
  constructor
  · intro hfits position block hblock successor hsuccessor
    obtain ⟨place, hplace⟩ := List.mem_iff_getElem?.mp hsuccessor
    have horigin : (position, place) ∈ origins graph graph.mir.blocks.length := by
      rw [mem_origins, successorsAt_of_getElem? hblock]
      exact ⟨(List.getElem?_eq_some_iff.mp hblock).1, (List.getElem?_eq_some_iff.mp hplace).1⟩
    obtain ⟨other, next, hother, hnext, hfrom, hto⟩ := hfits _ horigin
    obtain rfl : block = other := Option.some_inj.mp (hblock.symm.trans hother)
    obtain rfl : successor = next := Option.some_inj.mp (hplace.symm.trans hnext)
    exact ⟨hfrom, hto⟩
  · rintro hfits ⟨position, place⟩ horigin
    obtain ⟨hposition, hplace⟩ := mem_origins.mp horigin
    have hblock := List.getElem?_eq_getElem hposition
    rw [successorsAt_of_getElem? hblock] at hplace
    obtain ⟨hfrom, hto⟩ := hfits position _ hblock _ (List.getElem_mem hplace)
    exact ⟨_, _, hblock, List.getElem?_eq_getElem hplace, hfrom, hto⟩

/-- All edges reach their successors if the numbers fit at all origins. -/
theorem forall₂_reaches_iff {nodes : List Node} {edges : List Edge}
    {numbered : List (Nat × Nat)} (hnodes : nodes = blockNodes graph.mir.blocks graph tree)
    (hleads : List.Forall₂ (Leads graph nodes) numbered edges) :
    List.Forall₂ (Reaches graph nodes) numbered edges ↔ ∀ origin ∈ numbered, Fits graph origin := by
  subst hnodes
  induction hleads with
  | nil => simp
  | cons hfirst _ ih => rw [List.forall₂_cons, List.forall_mem_cons, hfirst.reaches_iff, ih]

/-- **When edges reach the blocks they mean.**  In a drawing of the upper pass all edges lead from
the node of the block they stem from, and of no other, to the node of the successor, and of no
other, exactly if this holds: each block with a successor is the only one with its number, and the
successor is the number of the block at that position and of no other.  It holds if all blocks are
numbered by their positions and successors are positions of blocks. -/
theorem edges_reach_iff (graph : Graph) (scripts : List Script) (tree : InlineTree) :
    (List.Forall₂ (Reaches graph (draw .mir graph scripts tree).nodes)
        (origins graph graph.mir.blocks.length) (draw .mir graph scripts tree).edges ↔
      ∀ position block, graph.mir.blocks[position]? = some block →
        ∀ successor ∈ block.successors, NumbersAlone graph.mir.blocks block.number position ∧
          NumbersAlone graph.mir.blocks successor successor.toNat) ∧
    ((∀ (position : Nat) (block : Block), graph.mir.blocks[position]? = some block →
        block.number.toNat = position) →
      (∀ block ∈ graph.mir.blocks, ∀ successor ∈ block.successors,
        successor.toNat < graph.mir.blocks.length) →
      List.Forall₂ (Reaches graph (draw .mir graph scripts tree).nodes)
        (origins graph graph.mir.blocks.length) (draw .mir graph scripts tree).edges) := by
  have hdrawn : DrawsBlocks graph tree graph.mir.blocks (draw .mir graph scripts tree) :=
    drawsBlocks graph.mir.blocks graph tree rfl rfl
  have hiff := (forall₂_reaches_iff rfl hdrawn.edges).trans forall_fits_iff
  refine ⟨hiff, ?_⟩
  intro hnumbers hsuccessors
  apply hiff.mpr
  intro position block hblock successor hsuccessor
  have hmem := List.mem_of_getElem? hblock
  have hposition : block.number.toNat = position := hnumbers position block hblock
  constructor
  · have hlt : block.number.toNat < graph.mir.blocks.length := by
      rw [hposition]
      exact (List.getElem?_eq_some_iff.mp hblock).1
    have halone := numbersAlone_of_positions hnumbers hlt
    rwa [hposition] at halone
  · exact numbersAlone_of_positions hnumbers (hsuccessors block hmem successor hsuccessor)

theorem sampleLoop_edges_reach :
    (∀ (position : Nat) (block : Block), sampleLoop.mir.blocks[position]? = some block →
        block.number.toNat = position) ∧
      (∀ block ∈ sampleLoop.mir.blocks, ∀ successor ∈ block.successors,
        successor.toNat < sampleLoop.mir.blocks.length) ∧
      List.Forall₂ (Reaches sampleLoop (draw .mir sampleLoop [] default).nodes)
        [(0, 0), (0, 1), (1, 0)] (draw .mir sampleLoop [] default).edges := by
  have hnumbers : ∀ (position : Nat) (block : Block),
      sampleLoop.mir.blocks[position]? = some block → block.number.toNat = position := by
    intro position block hblock
    match position with
    | 0 | 1 | 2 => cases hblock; rfl
    | position + 3 => cases hblock
  have hsuccessors : ∀ block ∈ sampleLoop.mir.blocks, ∀ successor ∈ block.successors,
      successor.toNat < sampleLoop.mir.blocks.length := by simp [sampleLoop]
  refine ⟨hnumbers, hsuccessors, ?_⟩
  exact (edges_reach_iff sampleLoop [] default).2 hnumbers hsuccessors

/-- Two blocks with the numbers 5 and 6, and a jump from the first to the second. -/
def sampleOffset : Graph where
  mir.blocks := [{ number := 5, successors := [1] }, { number := 6, predecessors := [0] }]

/-- Two blocks with the numbers 1 and 0, and a jump from the first to the second. -/
def sampleSwapped : Graph where
  mir.blocks := [{ number := 1, successors := [1] }, { number := 0, predecessors := [0] }]

/-- With other numbers an edge can lead to a node that is not there, or to that of another block. -/
theorem edge_misses_block :
    (∀ block ∈ sampleOffset.mir.blocks, ∀ successor ∈ block.successors, successor.toNat < 2) ∧
      (draw .mir sampleOffset [] default).nodes.map Node.name = ["Block5", "Block6"] ∧
      (draw .mir sampleOffset [] default).edges = [{ source := "Block5", target := "Block1" }] ∧
      (∀ block ∈ sampleSwapped.mir.blocks, ∀ successor ∈ block.successors, successor.toNat < 2) ∧
      (draw .mir sampleSwapped [] default).nodes.map Node.name = ["Block1", "Block0"] ∧
      (draw .mir sampleSwapped [] default).edges = [{ source := "Block1", target := "Block1" }] ∧
      ¬ List.Forall₂ (Reaches sampleOffset (draw .mir sampleOffset [] default).nodes)
        (origins sampleOffset 2) (draw .mir sampleOffset [] default).edges := by
  have hnames : (draw .mir sampleOffset [] default).nodes.map Node.name = ["Block5", "Block6"] := by
    decide +kernel
  have hedges : (draw .mir sampleOffset [] default).edges =
      [{ source := "Block5", target := "Block1" }] := by decide +kernel
  refine ⟨by simp [sampleOffset], hnames, hedges, by simp [sampleSwapped], by decide +kernel,
    by decide +kernel, ?_⟩
  intro hreaches
  have horigins : origins sampleOffset 2 = [(0, 0)] := rfl
  rw [hedges, horigins, List.forall₂_cons] at hreaches
  obtain ⟨⟨successor, hsuccessor, -, hto⟩, -⟩ := hreaches
  cases hsuccessor
  -- the node at position 1 has another name
  have hname := (hto 1).mpr rfl
  rw [← List.getElem?_map, hnames] at hname
  exact absurd hname (by decide)

end CompileWatch.Dot
