import CompileWatch.Proofs.InlineTree.CallSite

/-!
# Asking a tree

A tree stores the parent of each frame and the frame of each block.  The children and the
blocks of a frame are found by a scan, and its depth by a walk along the parents.
`Consistent` says that these answers fit together.

Nothing in a tree as such makes the walk end, or keeps a block from naming a frame that
does not exist; rebuilt trees have both properties because frames are numbered in the
order of their discovery.  A frame may also belong to another, larger tree.  Such a frame
has no parent here, no children and no blocks.
-/

namespace CompileWatch.InlineTree

variable {blocks : List Block} {scripts : List Script} {tree : InlineTree}
  {count position : Nat} {id parent : FrameId}

/-- The walk from a frame upwards meets these parents, and ends at a frame without a parent. -/
inductive ParentChain (tree : InlineTree) : FrameId → List FrameId → Prop
  | top {id : FrameId} : tree.parent? id = none → ParentChain tree id []
  | up {id parent : FrameId} {chain : List FrameId} :
      tree.parent? id = some parent → ParentChain tree parent chain →
        ParentChain tree id (parent :: chain)

/-- The answers of a tree of some blocks fit together. -/
structure Consistent (count : Nat) (tree : InlineTree) : Prop where
  /-- Each block is among the blocks of its own frame and of no other. -/
  blocks : ∀ position < count, ∃ id ∈ tree.frameIds, tree.frameOf? position = some id ∧
    ∀ other, position ∈ tree.blocksIn other ↔ other = id
  /-- The blocks of a frame are listed once and in order, and so are its children. -/
  ascending : ∀ id, (tree.blocksIn id).Pairwise (· < ·) ∧
    (∀ position ∈ tree.blocksIn id, position < count) ∧
    (tree.children id).Pairwise fun first second => first.index < second.index
  /-- The root is the child of no frame. -/
  root : FrameId.root ∈ tree.frameIds ∧ tree.depth FrameId.root = 0 ∧
    ∀ id, FrameId.root ∉ tree.children id
  /-- Every other frame is the child of its parent and of no other frame, and one deeper. -/
  parents : ∀ id ∈ tree.frameIds, id ≠ FrameId.root →
    ∃ parent ∈ tree.frameIds, tree.parent? id = some parent ∧
      (∀ other, id ∈ tree.children other ↔ other = parent) ∧
      tree.depth id = tree.depth parent + 1 ∧ tree.depth id ≤ id.index
  /-- From any frame whatever the walk along the parents ends, and the depth is its length. -/
  climbs : ∀ id, ∃ chain, ParentChain tree id chain ∧ tree.depth id = chain.length
  /-- A frame of another tree has no answers here. -/
  foreign : ∀ id, id ∉ tree.frameIds → tree.frame? id = none ∧ tree.depth id = 0 ∧
    tree.children id = [] ∧ tree.blocksIn id = []

/-! ## What the scans find -/

theorem mem_frameIds : id ∈ tree.frameIds ↔ id.index < tree.frames.length := by
  obtain ⟨index⟩ := id
  simp [frameIds]

theorem frame?_eq_none_iff : tree.frame? id = none ↔ id ∉ tree.frameIds := by
  rw [mem_frameIds, not_lt]
  exact List.getElem?_eq_none_iff

theorem parent?_of_notMem (hid : id ∉ tree.frameIds) : tree.parent? id = none := by
  rw [parent?, frame?_eq_none_iff.mpr hid, Option.bind_none]

theorem mem_frameIds_of_parent? (hparent : tree.parent? id = some parent) :
    id ∈ tree.frameIds := by
  by_contra hid
  rw [parent?_of_notMem hid] at hparent
  cases hparent

theorem mem_blocksIn : position ∈ tree.blocksIn id ↔ tree.frameOf? position = some id := by
  unfold blocksIn
  rw [List.mem_filter, List.mem_range, decide_eq_true_eq]
  exact and_iff_right_of_imp lt_of_frameOf?

theorem mem_children : id ∈ tree.children parent ↔ tree.parent? id = some parent := by
  unfold children
  rw [List.mem_filter, decide_eq_true_eq]
  exact and_iff_right_of_imp mem_frameIds_of_parent?

theorem blocksIn_ascending (tree : InlineTree) (id : FrameId) :
    (tree.blocksIn id).Pairwise (· < ·) :=
  List.pairwise_lt_range.filter _

theorem children_ascending (tree : InlineTree) (id : FrameId) :
    (tree.children id).Pairwise fun first second => first.index < second.index := by
  unfold children frameIds
  apply List.Pairwise.filter
  rw [List.pairwise_map]
  exact List.pairwise_lt_range

/-! ## Where the walk leads -/

namespace Discovered

theorem root_mem (hdiscovered : Discovered blocks scripts count tree) :
    FrameId.root ∈ tree.frameIds :=
  mem_frameIds.mpr (lt_of_frame? hdiscovered.root)

theorem parent?_root (hdiscovered : Discovered blocks scripts count tree) :
    tree.parent? FrameId.root = none := by
  rw [parent?, hdiscovered.root]
  rfl

/-- A parent has a smaller number, so it is a frame of the same tree. -/
theorem parent_lt (hdiscovered : Discovered blocks scripts count tree)
    (hparent : tree.parent? id = some parent) : parent.index < id.index := by
  have hpos : 0 < id.index := by
    by_contra hzero
    obtain rfl : id = FrameId.root := congrArg FrameId.mk (Nat.eq_zero_of_not_pos hzero)
    rw [hdiscovered.parent?_root] at hparent
    cases hparent
  have hlt := mem_frameIds.mp (mem_frameIds_of_parent? hparent)
  obtain ⟨other, hother, hsmaller⟩ := hdiscovered.exists_parent hpos hlt
  obtain rfl : other = parent := Option.some_inj.mp (hother.symm.trans hparent)
  exact hsmaller

theorem parent_mem (hdiscovered : Discovered blocks scripts count tree)
    (hparent : tree.parent? id = some parent) : parent ∈ tree.frameIds := by
  have hid := mem_frameIds.mp (mem_frameIds_of_parent? hparent)
  exact mem_frameIds.mpr ((hdiscovered.parent_lt hparent).trans hid)

/-- The walk ends after as many steps as the depth says, and there are no more of them than
frames with smaller numbers. -/
theorem exists_parentChain (hdiscovered : Discovered blocks scripts count tree) (id : FrameId) :
    ∃ chain, ParentChain tree id chain ∧ tree.depth id = chain.length ∧
      tree.depth id ≤ id.index := by
  -- parents have smaller numbers, so the induction is on the number of the frame
  obtain ⟨index, hindex⟩ : ∃ index, id.index = index := ⟨_, rfl⟩
  induction index using Nat.strongRecOn generalizing id with
  | ind index ih =>
      cases hparent : tree.parent? id with
      | none =>
          have hdepth : tree.depth id = 0 := by rw [depth, hparent]
          exact ⟨[], .top hparent, hdepth, hdepth ▸ Nat.zero_le _⟩
      | some parent =>
          have hlt := hdiscovered.parent_lt hparent
          obtain ⟨chain, hchain, hdepth, hle⟩ := ih parent.index (hindex ▸ hlt) parent rfl
          have hsucc := depth_of_parent hparent hlt
          refine ⟨parent :: chain, .up hparent hchain, ?_, ?_⟩
          · rw [hsucc, hdepth, List.length_cons]
          · omega

/-! ## The answers fit together -/

theorem consistent_parents (hdiscovered : Discovered blocks scripts count tree)
    (hid : id ∈ tree.frameIds) (hroot : id ≠ FrameId.root) :
    ∃ parent ∈ tree.frameIds, tree.parent? id = some parent ∧
      (∀ other, id ∈ tree.children other ↔ other = parent) ∧
      tree.depth id = tree.depth parent + 1 ∧ tree.depth id ≤ id.index := by
  have hpos : 0 < id.index :=
    Nat.pos_of_ne_zero fun hzero => hroot (congrArg FrameId.mk hzero)
  obtain ⟨parent, hparent, hsmaller⟩ := hdiscovered.exists_parent hpos (mem_frameIds.mp hid)
  obtain ⟨_, -, -, hle⟩ := hdiscovered.exists_parentChain id
  refine ⟨parent, hdiscovered.parent_mem hparent, hparent, ?_, depth_of_parent hparent hsmaller,
    hle⟩
  intro other
  rw [mem_children, hparent, Option.some_inj]
  exact eq_comm

theorem consistent_foreign (hdiscovered : Discovered blocks scripts count tree)
    (hid : id ∉ tree.frameIds) :
    tree.frame? id = none ∧ tree.depth id = 0 ∧ tree.children id = [] ∧
      tree.blocksIn id = [] := by
  refine ⟨frame?_eq_none_iff.mpr hid, ?_, ?_, ?_⟩
  · rw [depth, parent?_of_notMem hid]
  · refine List.eq_nil_iff_forall_not_mem.mpr fun child hchild => ?_
    exact hid (hdiscovered.parent_mem (mem_children.mp hchild))
  · refine List.eq_nil_iff_forall_not_mem.mpr fun position hposition => ?_
    exact hid (mem_frameIds.mpr (hdiscovered.covers.2 position id (mem_blocksIn.mp hposition)))

end Discovered

/-- **The answers of a rebuilt tree fit together.**  Each block is among the blocks of exactly one
frame, its own, and blocks are listed in order.  Each frame but the root is the child of exactly one
frame, its parent, and is one deeper than that; the root is the child of none and has depth 0.  No
frame is deeper than its number.  From every frame, also from one of another tree, the walk along
the parents ends; a frame that this tree does not have is nowhere to be found in it. -/
theorem rebuild_consistent (blocks : List Block) (scripts : List Script) :
    Consistent blocks.length (rebuild blocks scripts) := by
  have hdiscovered := rebuild_discovered blocks scripts
  constructor
  case blocks =>
    intro position hposition
    obtain ⟨id, hframe⟩ := hdiscovered.exists_frameOf? hposition
    refine ⟨id, mem_frameIds.mpr (hdiscovered.covers.2 position id hframe), hframe, ?_⟩
    intro other
    rw [mem_blocksIn, hframe, Option.some_inj]
    exact eq_comm
  case ascending =>
    intro id
    refine ⟨blocksIn_ascending _ id, ?_, children_ascending _ id⟩
    intro position hposition
    exact hdiscovered.covers.1 ▸ lt_of_frameOf? (mem_blocksIn.mp hposition)
  case root =>
    refine ⟨hdiscovered.root_mem, depth_root hdiscovered, ?_⟩
    intro id hroot
    rw [mem_children, hdiscovered.parent?_root] at hroot
    cases hroot
  case parents =>
    intro id hid hroot
    exact hdiscovered.consistent_parents hid hroot
  case climbs =>
    intro id
    obtain ⟨chain, hchain, hdepth, -⟩ := hdiscovered.exists_parentChain id
    exact ⟨chain, hchain, hdepth⟩
  case foreign =>
    intro id hid
    exact hdiscovered.consistent_foreign hid

end CompileWatch.InlineTree
