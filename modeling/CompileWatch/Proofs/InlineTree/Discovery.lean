import CompileWatch.Proofs.InlineTree.Placement
import Mathlib.Logic.Relation
import Mathlib.Order.Bounds.Basic

/-!
# Frames in the order of their discovery

A frame is opened at one block and is only joined later, so the block that opened it is
the least of its blocks.  The caller of that block was placed before it, which gives the
frame a parent with a smaller number.  `Discovered` collects these facts about a tree
of the first blocks; `Discovered.place` says that placing one more block keeps them, and
`rebuild_discovered` states them for the whole tree.
-/

namespace CompileWatch.InlineTree

variable {blocks : List Block} {scripts : List Script} {tree : InlineTree}
  {count position : Nat} {id parent : FrameId}

/-! ## What a placement adds -/

/-- The frame that a placement gives to its block. -/
def target (tree : InlineTree) : Except InlineIssue Placement → FrameId
  | .ok (.join frame) => frame
  | .ok (.opening _ _) => ⟨tree.frames.length⟩
  | .error _ => FrameId.root

/-- The frame that a placement opens, if it opens one. -/
def opened (tree : InlineTree) (script : Option Script) :
    Except InlineIssue Placement → List InlineFrame
  | .ok (.opening parent callSite) => [{ parent, style := tree.frames.length, script, callSite }]
  | _ => []

section Place

variable (script : Option Script) (placed : Except InlineIssue Placement)

theorem blockFrames_place :
    (tree.place script placed).blockFrames = tree.blockFrames ++ [tree.target placed] := by
  rcases placed with _ | _ | _ <;> rfl

theorem frames_place :
    (tree.place script placed).frames = tree.frames ++ tree.opened script placed := by
  rcases placed with _ | _ | _ <;> simp [place, opened]

/-- The blocks of a frame after one more block was placed. -/
theorem frameOf?_place_eq_some :
    (tree.place script placed).frameOf? position = some id ↔
      tree.frameOf? position = some id ∨
        position = tree.blockFrames.length ∧ tree.target placed = id := by
  simp only [frameOf?, blockFrames_place, List.getElem?_append, List.getElem?_singleton]
  grind

theorem frame?_place_of_lt (hid : id.index < tree.frames.length) :
    (tree.place script placed).frame? id = tree.frame? id := by
  simp [frame?, frames_place, List.getElem?_append_left hid]

end Place

theorem frameOf?_eq_none_iff : tree.frameOf? position = none ↔ tree.blockFrames.length ≤ position :=
  List.getElem?_eq_none_iff

theorem lt_of_frameOf? (hframe : tree.frameOf? position = some id) :
    position < tree.blockFrames.length :=
  (List.getElem?_eq_some_iff.mp hframe).1

theorem lt_of_frame? {frame : InlineFrame} (hframe : tree.frame? id = some frame) :
    id.index < tree.frames.length :=
  (List.getElem?_eq_some_iff.mp hframe).1

/-! ## The invariant -/

/-- The frame was opened at the given block: this is its least block, and the frame describes the
call that the block was inlined from. -/
structure OpenedAt (blocks : List Block) (scripts : List Script) (tree : InlineTree)
    (id : FrameId) (position : Nat) : Prop where
  least : IsLeast {block | tree.frameOf? block = some id} position
  described : ∃ callSite parent, callerAt blocks position = some callSite ∧ callSite < position ∧
    tree.frameOf? callSite = some parent ∧ parent.index < id.index ∧
    tree.frame? id = some
      { parent := some parent, style := id.index, script := scripts[position]?,
        callSite := some callSite }

/-- What is known of the tree of the first `count` blocks. -/
structure Discovered (blocks : List Block) (scripts : List Script) (count : Nat)
    (tree : InlineTree) : Prop where
  /-- Every block has one frame, and that frame exists. -/
  covers : tree.blockFrames.length = count ∧
    ∀ block id, tree.frameOf? block = some id → id.index < tree.frames.length
  /-- At most one frame was opened at each block, so a number fits wherever a position fits. -/
  frames_length_le : tree.frames.length ≤ count + 1
  root : tree.frame? FrameId.root =
    some { parent := none, style := 0, script := scripts[0]?, callSite := none }
  /-- Every other frame was opened at one of the blocks. -/
  opened : ∀ id : FrameId, 0 < id.index → id.index < tree.frames.length →
    ∃ position, OpenedAt blocks scripts tree id position
  /-- Frames are numbered in the order in which they were opened. -/
  ordered : ∀ (earlier later : FrameId) (first second : Nat),
    0 < earlier.index → earlier.index < later.index →
    IsLeast {block | tree.frameOf? block = some earlier} first →
    IsLeast {block | tree.frameOf? block = some later} second → first < second

theorem discovered_seed : Discovered blocks scripts 0 (seed scripts) where
  covers := ⟨rfl, by simp [frameOf?, seed]⟩
  frames_length_le := by simp [seed]
  root := by cases scripts <;> rfl
  opened := by
    intro id hpos hlt
    simp only [seed, List.length_singleton] at hlt
    omega
  ordered := by
    intro _ _ _ _ _ _ hfirst
    exact absurd hfirst.1 (by simp [frameOf?, seed])

/-! ## One more block -/

namespace Discovered

/-- A frame that was opened before keeps its first block and its description. -/
theorem openedAt_place (hopened : OpenedAt blocks scripts tree id position)
    (script : Option Script) (placed : Except InlineIssue Placement) :
    OpenedAt blocks scripts (tree.place script placed) id position := by
  obtain ⟨⟨hmem, hlower⟩, callSite, parent, hcaller, hlt, hparent, hsmaller, hframe⟩ := hopened
  refine ⟨⟨?_, ?_⟩, callSite, parent, hcaller, hlt, ?_, hsmaller, ?_⟩
  · exact (frameOf?_place_eq_some script placed).mpr (Or.inl hmem)
  · intro block hblock
    rcases (frameOf?_place_eq_some script placed).mp hblock with hold | ⟨rfl, -⟩
    · exact hlower hold
    · exact (lt_of_frameOf? hmem).le
  · exact (frameOf?_place_eq_some script placed).mpr (Or.inl hparent)
  · rw [frame?_place_of_lt script placed (lt_of_frame? hframe), hframe]

/-- The new frame has its opening block alone. -/
theorem openedAt_new (hdiscovered : Discovered blocks scripts count tree) {callSite : Nat}
    (hplaced : placement blocks tree count = .ok (.opening parent callSite)) :
    OpenedAt blocks scripts
      (tree.place scripts[count]? (.ok (.opening parent callSite)))
      ⟨tree.frames.length⟩ count := by
  obtain ⟨hlength, hexists⟩ := hdiscovered.covers
  obtain ⟨hcaller, hparent⟩ := placement_opening hplaced
  have hfresh : ∀ block, tree.frameOf? block ≠ some ⟨tree.frames.length⟩ :=
    fun block hblock => Nat.lt_irrefl _ (hexists block _ hblock)
  refine ⟨⟨?_, ?_⟩, callSite, parent, hcaller, hlength ▸ lt_of_frameOf? hparent, ?_,
    hexists callSite parent hparent, ?_⟩
  · exact (frameOf?_place_eq_some _ _).mpr (Or.inr ⟨hlength.symm, rfl⟩)
  · intro block hblock
    rcases (frameOf?_place_eq_some _ _).mp hblock with hold | ⟨rfl, -⟩
    · exact absurd hold (hfresh block)
    · exact hlength.ge
  · exact (frameOf?_place_eq_some _ _).mpr (Or.inl hparent)
  · simp [frame?, frames_place, InlineTree.opened]

/-- A frame has no smaller block after a block was placed than it had before. -/
theorem least_of_place (hdiscovered : Discovered blocks scripts count tree)
    (script : Option Script) (placed : Except InlineIssue Placement)
    (hold : id.index < tree.frames.length) (hpos : 0 < id.index)
    (hleast : IsLeast {block | (tree.place script placed).frameOf? block = some id} position) :
    IsLeast {block | tree.frameOf? block = some id} position := by
  obtain ⟨first, hopened⟩ := hdiscovered.opened id hpos hold
  have hsame := (openedAt_place hopened script placed).least.unique hleast
  exact hsame ▸ hopened.least

/-- Every block that was placed has a frame. -/
theorem exists_frameOf? (hdiscovered : Discovered blocks scripts count tree)
    (hposition : position < count) : ∃ id, tree.frameOf? position = some id := by
  cases hframe : tree.frameOf? position with
  | some id => exact ⟨id, rfl⟩
  | none =>
      have hlength := frameOf?_eq_none_iff.mp hframe
      rw [hdiscovered.covers.1] at hlength
      omega

/-- The frame that a placement gives to its block exists after it. -/
theorem target_lt (hdiscovered : Discovered blocks scripts count tree)
    {placed : Except InlineIssue Placement} (hplaced : placement blocks tree count = placed) :
    (tree.target placed).index < (tree.place scripts[count]? placed).frames.length := by
  have hroot : FrameId.root.index < tree.frames.length := lt_of_frame? hdiscovered.root
  rw [frames_place, List.length_append]
  rcases placed with issue | frame | ⟨parent, callSite⟩
  · exact Nat.lt_add_right _ hroot
  · refine Nat.lt_add_right _ ?_
    rcases placement_join hplaced with ⟨-, rfl⟩ | ⟨_, index, _, _, hframe⟩
    · exact hroot
    · exact hdiscovered.covers.2 index frame hframe
  · simp [target, InlineTree.opened]

/-- A frame that a placement adds is opened at its block. -/
theorem openedAt_of_new (hdiscovered : Discovered blocks scripts count tree)
    {placed : Except InlineIssue Placement} (hplaced : placement blocks tree count = placed)
    (hnew : tree.frames.length ≤ id.index)
    (hlt : id.index < (tree.place scripts[count]? placed).frames.length) :
    OpenedAt blocks scripts (tree.place scripts[count]? placed) id count := by
  rw [frames_place, List.length_append] at hlt
  rcases placed with issue | frame | ⟨parent, callSite⟩
  · -- no frame is added for a block with an issue
    simp [InlineTree.opened] at hlt
    omega
  · simp [InlineTree.opened] at hlt
    omega
  · -- there is one frame more, so the number is the one that was free
    obtain rfl : id = ⟨tree.frames.length⟩ := by
      simp only [InlineTree.opened, List.length_singleton] at hlt
      exact congrArg FrameId.mk (by omega)
    exact hdiscovered.openedAt_new hplaced

/-- A frame that a placement adds comes after all others. -/
theorem lt_of_new (hdiscovered : Discovered blocks scripts count tree)
    {script : Option Script} {placed : Except InlineIssue Placement} {earlier later : FrameId}
    {first second : Nat} (hlt : earlier.index < later.index)
    (hnew : tree.frames.length ≤ later.index)
    (hfirst : (tree.place script placed).frameOf? first = some earlier)
    (hsecond : (tree.place script placed).frameOf? second = some later) : first < second := by
  have hexists := hdiscovered.covers.2
  rcases (frameOf?_place_eq_some _ _).mp hsecond with hframe | ⟨rfl, hlater⟩
  · exact absurd (hexists second later hframe) (not_lt.mpr hnew)
  · -- the later frame has the last block, and the earlier one has a block before it
    rcases (frameOf?_place_eq_some _ _).mp hfirst with hframe | ⟨rfl, hearlier⟩
    · exact lt_of_frameOf? hframe
    · rw [← hearlier, hlater] at hlt
      exact absurd hlt (Nat.lt_irrefl _)

/-- Placing one more block keeps the invariant. -/
theorem place (hdiscovered : Discovered blocks scripts count tree) :
    Discovered blocks scripts (count + 1)
      (tree.place scripts[count]? (placement blocks tree count)) := by
  obtain ⟨hlength, hexists⟩ := hdiscovered.covers
  have htarget := hdiscovered.target_lt rfl
  constructor
  case covers =>
    refine ⟨by simp [blockFrames_place, hlength], ?_⟩
    intro block id hframe
    rcases (frameOf?_place_eq_some _ _).mp hframe with hold | ⟨-, rfl⟩
    · rw [frames_place, List.length_append]
      exact Nat.lt_add_right _ (hexists block id hold)
    · exact htarget
  case frames_length_le =>
    have hle := hdiscovered.frames_length_le
    rw [frames_place, List.length_append]
    rcases placement blocks tree count with _ | _ | _ <;> simp [InlineTree.opened] <;> omega
  case root =>
    rw [frame?_place_of_lt _ _ (lt_of_frame? hdiscovered.root)]
    exact hdiscovered.root
  case opened =>
    intro id hpos hlt
    rcases Nat.lt_or_ge id.index tree.frames.length with hold | hnew
    · obtain ⟨position, hopened⟩ := hdiscovered.opened id hpos hold
      exact ⟨position, openedAt_place hopened _ _⟩
    · exact ⟨count, hdiscovered.openedAt_of_new rfl hnew hlt⟩
  case ordered =>
    intro earlier later first second hpos hlt hfirst hsecond
    rcases Nat.lt_or_ge later.index tree.frames.length with hold | hnew
    · -- both frames were there before, with the same least blocks
      exact hdiscovered.ordered earlier later first second hpos hlt
        (hdiscovered.least_of_place _ _ (hlt.trans hold) hpos hfirst)
        (hdiscovered.least_of_place _ _ hold (hpos.trans hlt) hsecond)
    · exact hdiscovered.lt_of_new hlt hnew hfirst.1 hsecond.1

end Discovered

theorem partialTree_discovered (blocks : List Block) (scripts : List Script) (count : Nat) :
    Discovered blocks scripts count (partialTree blocks scripts count) := by
  induction count with
  | zero =>
      rw [partialTree_zero]
      exact discovered_seed
  | succ count ih =>
      rw [partialTree_succ]
      exact ih.place

theorem rebuild_discovered (blocks : List Block) (scripts : List Script) :
    Discovered blocks scripts blocks.length (rebuild blocks scripts) := by
  rw [rebuild_eq_partialTree]
  exact partialTree_discovered blocks scripts blocks.length

/-! ## The parent links -/

/-- The parent of a frame. -/
def ParentOf (tree : InlineTree) (child parent : FrameId) : Prop :=
  tree.parent? child = some parent

/-- Every frame but the root has a parent, which is a frame with a smaller number. -/
theorem Discovered.exists_parent (hdiscovered : Discovered blocks scripts count tree)
    (hpos : 0 < id.index) (hlt : id.index < tree.frames.length) :
    ∃ parent, tree.ParentOf id parent ∧ parent.index < id.index := by
  obtain ⟨position, -, callSite, parent, -, -, -, hsmaller, hframe⟩ := hdiscovered.opened id hpos hlt
  exact ⟨parent, by simp [ParentOf, parent?, hframe], hsmaller⟩

/-- The parent links lead from every frame to the root. -/
theorem Discovered.reaches_root (hdiscovered : Discovered blocks scripts count tree)
    (hlt : id.index < tree.frames.length) :
    Relation.ReflTransGen tree.ParentOf id FrameId.root := by
  obtain ⟨index⟩ := id
  induction index using Nat.strongRecOn with
  | ind index ih =>
      rcases Nat.eq_zero_or_pos index with rfl | hpos
      · exact Relation.ReflTransGen.refl
      · obtain ⟨parent, hparent, hsmaller⟩ := hdiscovered.exists_parent hpos hlt
        exact (ih parent.index hsmaller (hsmaller.trans hlt)).head hparent

/-- **The rebuilt frames are a tree in discovery order.**  Each block belongs to exactly one frame
that exists.  The root has no call site and every other frame has one, before its least block; the
frames are numbered in the order of their least blocks, parents come before their children, and the
links from child to parent all end at the root. -/
theorem rebuild_frames_tree (blocks : List Block) (scripts : List Script) :
    Discovered blocks scripts blocks.length (rebuild blocks scripts) ∧
      (∀ position < blocks.length, ∃! id, id ∈ (rebuild blocks scripts).frameIds ∧
        position ∈ (rebuild blocks scripts).blocksIn id) ∧
      ∀ id ∈ (rebuild blocks scripts).frameIds,
        Relation.ReflTransGen (rebuild blocks scripts).ParentOf id FrameId.root := by
  have hdiscovered := rebuild_discovered blocks scripts
  obtain ⟨hlength, hexists⟩ := hdiscovered.covers
  have hmem : ∀ id, id ∈ (rebuild blocks scripts).frameIds ↔
      id.index < (rebuild blocks scripts).frames.length := by
    rintro ⟨index⟩
    simp [frameIds]
  refine ⟨hdiscovered, ?_, fun id hid => hdiscovered.reaches_root ((hmem id).mp hid)⟩
  intro position hposition
  obtain ⟨id, hframe⟩ := hdiscovered.exists_frameOf? hposition
  refine ⟨id, ⟨(hmem id).mpr (hexists position id hframe), ?_⟩, ?_⟩
  · simp [blocksIn, hframe, hlength, hposition]
  · rintro other ⟨-, hother⟩
    simp only [blocksIn, List.mem_filter, hframe, decide_eq_true_eq] at hother
    exact (Option.some_inj.mp hother.2).symm

end CompileWatch.InlineTree
