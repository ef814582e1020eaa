import CompileWatch.Proofs.InlineTree.Discovery
import Mathlib.Data.List.Chain

/-!
# Frames and call sites

The walk along the predecessors only ever joins a block to a block with the same caller.
So all blocks of a frame have the caller for which the frame was opened, although the
rebuilding never follows a chain of callers.  `Coherent` says so for a tree of the first
blocks, together with the one way in which a block with a caller ends up in the root:
that it, or a block before it, has an issue.

Where there is no issue, the frames above a block are therefore the callers above it:
`rebuild_callSites` compares the depth of a frame with the length of the chain of
callers of any of its blocks.
-/

namespace CompileWatch.InlineTree

variable {blocks : List Block} {scripts : List Script} {tree : InlineTree}
  {count position : Nat} {id parent : FrameId}

/-- The callers of a block from the inside out: its caller, the caller of that one, and so on. -/
inductive CallerChain (blocks : List Block) : Nat → List Nat → Prop
  | outermost {position : Nat} :
      callerAt blocks position = none → CallerChain blocks position []
  | called {position caller : Nat} {chain : List Nat} :
      callerAt blocks position = some caller → CallerChain blocks caller chain →
        CallerChain blocks position (caller :: chain)

/-- The frames of a tree agree with the callers of its blocks. -/
structure Coherent (blocks : List Block) (tree : InlineTree) : Prop where
  /-- All blocks of a frame other than the root have the call site of the frame as their caller. -/
  callSite : ∀ position id, tree.frameOf? position = some id → 0 < id.index →
    ∃ caller, callerAt blocks position = some caller ∧
      (tree.frame? id).bind InlineFrame.callSite = some caller
  /-- A block with a caller is in the root only after an issue. -/
  fallback : ∀ position, tree.frameOf? position = some FrameId.root →
    callerAt blocks position ≠ none → ∃ issue ∈ tree.issues, issue.block ≤ position

theorem coherent_seed : Coherent blocks (seed scripts) where
  callSite := by simp [frameOf?, seed]
  fallback := by simp [frameOf?, seed]

/-! ## One more block -/

section Place

variable (script : Option Script) (placed : Except InlineIssue Placement)

theorem issues_subset_place : tree.issues ⊆ (tree.place script placed).issues := by
  rcases placed with _ | _ | _ <;> simp [place]

end Place

namespace Coherent

/-- The frame that the new block is given has the caller of the block as its call site. -/
theorem callSite_target (hcoherent : Coherent blocks tree)
    (hdiscovered : Discovered blocks scripts count tree) (script : Option Script)
    {placed : Except InlineIssue Placement} (hplaced : placement blocks tree count = placed)
    (hpos : 0 < (tree.target placed).index) :
    ∃ caller, callerAt blocks count = some caller ∧
      ((tree.place script placed).frame? (tree.target placed)).bind InlineFrame.callSite =
        some caller := by
  rcases placed with issue | frame | ⟨parent, callSite⟩
  · exact absurd hpos (Nat.lt_irrefl 0)
  · rcases placement_join hplaced with ⟨-, rfl⟩ | ⟨caller, index, hcaller, hsame, hframe⟩
    · exact absurd hpos (Nat.lt_irrefl 0)
    · -- the block joins one with the same caller, whose frame has that call site
      obtain ⟨_, hindex, hsite⟩ := hcoherent.callSite index frame hframe hpos
      obtain rfl : _ = caller := Option.some_inj.mp (hindex.symm.trans hsame)
      refine ⟨_, hcaller, ?_⟩
      rw [target, frame?_place_of_lt _ _ (hdiscovered.covers.2 index frame hframe), hsite]
  · obtain ⟨hcaller, -⟩ := placement_opening hplaced
    exact ⟨callSite, hcaller, by simp [target, frame?, frames_place, InlineTree.opened]⟩

/-- The new block is given the root only for an issue, or for want of a caller. -/
theorem fallback_target (hcoherent : Coherent blocks tree)
    (hdiscovered : Discovered blocks scripts count tree) (script : Option Script)
    {placed : Except InlineIssue Placement} (hplaced : placement blocks tree count = placed)
    (hroot : tree.target placed = FrameId.root) (hcaller : callerAt blocks count ≠ none) :
    ∃ issue ∈ (tree.place script placed).issues, issue.block ≤ count := by
  rcases placed with issue | frame | ⟨parent, callSite⟩
  · exact ⟨issue, by simp [InlineTree.place], (placement_error hplaced).2.le⟩
  · obtain rfl : frame = FrameId.root := hroot
    rcases placement_join hplaced with ⟨hnone, -⟩ | ⟨caller, index, -, hsame, hframe⟩
    · exact absurd hnone hcaller
    · -- the block that was joined fell back to the root before this one
      obtain ⟨issue, hissue, hle⟩ := hcoherent.fallback index hframe (by simp [hsame])
      refine ⟨issue, issues_subset_place _ _ hissue, hle.trans ?_⟩
      exact (lt_of_frameOf? hframe).le.trans hdiscovered.covers.1.le
  · have hlt : FrameId.root.index < tree.frames.length := lt_of_frame? hdiscovered.root
    exact absurd (congrArg FrameId.index hroot) hlt.ne'

theorem place (hcoherent : Coherent blocks tree)
    (hdiscovered : Discovered blocks scripts count tree) :
    Coherent blocks (tree.place scripts[count]? (placement blocks tree count)) := by
  obtain ⟨hlength, hexists⟩ := hdiscovered.covers
  generalize hplaced : placement blocks tree count = placed
  constructor
  case callSite =>
    intro position id hframe hpos
    rcases (frameOf?_place_eq_some _ _).mp hframe with hold | ⟨rfl, rfl⟩
    · rw [frame?_place_of_lt _ _ (hexists position id hold)]
      exact hcoherent.callSite position id hold hpos
    · rw [hlength]
      exact hcoherent.callSite_target hdiscovered _ hplaced hpos
  case fallback =>
    intro position hframe hcaller
    rcases (frameOf?_place_eq_some _ _).mp hframe with hold | ⟨rfl, hroot⟩
    · obtain ⟨issue, hissue, hle⟩ := hcoherent.fallback position hold hcaller
      exact ⟨issue, issues_subset_place _ _ hissue, hle⟩
    · rw [hlength] at hcaller ⊢
      exact hcoherent.fallback_target hdiscovered _ hplaced hroot hcaller

end Coherent

theorem partialTree_coherent (blocks : List Block) (scripts : List Script) (count : Nat) :
    Coherent blocks (partialTree blocks scripts count) := by
  induction count with
  | zero =>
      rw [partialTree_zero]
      exact coherent_seed
  | succ count ih =>
      rw [partialTree_succ]
      exact ih.place (partialTree_discovered blocks scripts count)

theorem rebuild_coherent (blocks : List Block) (scripts : List Script) :
    Coherent blocks (rebuild blocks scripts) := by
  rw [rebuild_eq_partialTree]
  exact partialTree_coherent blocks scripts blocks.length

/-! ## Call sites, parents and depths -/

theorem depth_root (hdiscovered : Discovered blocks scripts count tree) :
    tree.depth FrameId.root = 0 := by
  rw [depth, parent?, hdiscovered.root]
  rfl

theorem depth_of_parent (hparent : tree.parent? id = some parent)
    (hsmaller : parent.index < id.index) : tree.depth id = tree.depth parent + 1 := by
  rw [depth, hparent]
  exact if_pos hsmaller

/-- A block of a frame other than the root has the call site of the frame as its caller, which is
an earlier block, and the frame of that block is the parent. -/
theorem Coherent.frame_of_block (hcoherent : Coherent blocks tree)
    (hdiscovered : Discovered blocks scripts count tree)
    (hframe : tree.frameOf? position = some id) (hpos : 0 < id.index) :
    ∃ frame callSite parent, tree.frame? id = some frame ∧
      callerAt blocks position = some callSite ∧ callSite < position ∧
      frame.callSite = some callSite ∧ tree.frameOf? callSite = some parent ∧
      frame.parent = some parent ∧ parent.index < id.index := by
  obtain ⟨first, ⟨-, hlower⟩, callSite, parent, -, hlt, hparent, hsmaller, hdescribed⟩ :=
    hdiscovered.opened id hpos (hdiscovered.covers.2 position id hframe)
  obtain ⟨caller, hcaller, hsite⟩ := hcoherent.callSite position id hframe hpos
  obtain rfl : callSite = caller := by simpa [hdescribed] using hsite
  exact ⟨_, callSite, parent, hdescribed, hcaller, hlt.trans_le (hlower hframe), rfl, hparent, rfl,
    hsmaller⟩

/-- Without issues, the chain of callers of a block goes down, and is as long as the frame of the
block is deep. -/
theorem Coherent.exists_callerChain (hcoherent : Coherent blocks tree)
    (hdiscovered : Discovered blocks scripts count tree) (hissues : tree.issues = [])
    (hframe : tree.frameOf? position = some id) :
    ∃ chain, CallerChain blocks position chain ∧ (position :: chain).IsChain (· > ·) ∧
      tree.depth id = chain.length := by
  -- a caller comes before the block, so the induction is on positions
  induction position using Nat.strongRecOn generalizing id with
  | ind position ih =>
      rcases Nat.eq_zero_or_pos id.index with hzero | hpos
      · obtain rfl : id = FrameId.root := congrArg FrameId.mk hzero
        refine ⟨[], .outermost ?_, by simp, depth_root hdiscovered⟩
        by_contra hcaller
        obtain ⟨issue, hissue, -⟩ := hcoherent.fallback position hframe hcaller
        simp [hissues] at hissue
      · obtain ⟨frame, callSite, parent, hdescribed, hcaller, hlt, -, hsite, hparent, hsmaller⟩ :=
          hcoherent.frame_of_block hdiscovered hframe hpos
        obtain ⟨chain, hchain, hdown, hdepth⟩ := ih callSite hlt hsite
        refine ⟨callSite :: chain, .called hcaller hchain, ?_, ?_⟩
        · exact List.isChain_cons_cons.mpr ⟨hlt, hdown⟩
        · rw [depth_of_parent (by simp [parent?, hdescribed, hparent]) hsmaller, hdepth]
          rfl

/-- **Frames are call sites.**  All blocks of a frame other than the root have the call site of the
frame as their caller, and the parent is the frame of that call site.  Blocks without a caller are
in the root, and a block with a caller is there only if it or an earlier block has an issue.
Without issues, the chain of callers of every block goes down to a block without a caller, and has
as many callers as there are frames above the frame of the block. -/
theorem rebuild_callSites (blocks : List Block) (scripts : List Script) :
    (∀ position id, (rebuild blocks scripts).frameOf? position = some id → 0 < id.index →
      ∃ frame callSite parent, (rebuild blocks scripts).frame? id = some frame ∧
        callerAt blocks position = some callSite ∧ frame.callSite = some callSite ∧
        (rebuild blocks scripts).frameOf? callSite = some parent ∧ frame.parent = some parent) ∧
    (∀ position < blocks.length, callerAt blocks position = none →
      (rebuild blocks scripts).frameOf? position = some FrameId.root) ∧
    (∀ position, (rebuild blocks scripts).frameOf? position = some FrameId.root →
      callerAt blocks position ≠ none →
      ∃ issue ∈ (rebuild blocks scripts).issues, issue.block ≤ position) ∧
    ((rebuild blocks scripts).issues = [] → ∀ position < blocks.length,
      ∃ id chain, (rebuild blocks scripts).frameOf? position = some id ∧
        CallerChain blocks position chain ∧ (position :: chain).IsChain (· > ·) ∧
        (rebuild blocks scripts).depth id = chain.length) := by
  have hdiscovered := rebuild_discovered blocks scripts
  have hcoherent := rebuild_coherent blocks scripts
  refine ⟨?_, ?_, hcoherent.fallback, ?_⟩
  · intro position id hframe hpos
    obtain ⟨frame, callSite, parent, hdescribed, hcaller, -, hsite, hparentOf, hparent, -⟩ :=
      hcoherent.frame_of_block hdiscovered hframe hpos
    exact ⟨frame, callSite, parent, hdescribed, hcaller, hsite, hparentOf, hparent⟩
  · intro position hposition hcaller
    obtain ⟨id, hframe⟩ := hdiscovered.exists_frameOf? hposition
    rcases Nat.eq_zero_or_pos id.index with hzero | hpos
    · exact hframe.trans (congrArg (some ∘ FrameId.mk) hzero)
    · obtain ⟨caller, hsome, -⟩ := hcoherent.callSite position id hframe hpos
      exact absurd (hcaller.symm.trans hsome) (by simp)
  · intro hissues position hposition
    obtain ⟨id, hframe⟩ := hdiscovered.exists_frameOf? hposition
    obtain ⟨chain, hchain, hdown, hdepth⟩ :=
      hcoherent.exists_callerChain hdiscovered hissues hframe
    exact ⟨id, chain, hframe, hchain, hdown, hdepth⟩

end CompileWatch.InlineTree
