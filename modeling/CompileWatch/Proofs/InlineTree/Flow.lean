import CompileWatch.Proofs.InlineTree.CallSite
import CompileWatch.Proofs.InlineTree.Growth
import CompileWatch.Proofs.InlineTree.Rule

/-!
# Frames along control flow

A block without an issue is in the frame of the block that it joins, and opens a frame if
it joins none: `follows_or_opens` reads this off its placement, and off what the finished
tree remembers of it.

`rebuild_follows_flow` turns it into moves in the finished tree.  That the rules name a
block where the tree has a parent link is no accident: without issues the parent of a
frame is the frame of its call site (`Coherent.frame_of_block`).

Two blocks with one caller and one nearest ancestor need not be in one frame, as
`siblings_apart` shows; `shares_frame_iff` says when they are.
-/

namespace CompileWatch.InlineTree

variable {blocks : List Block} {scripts : List Script} {tree : InlineTree}
  {position caller index ancestor first second : Nat}

/-! ## What the rebuilding does -/

section Placed

variable (hcaller : callerAt blocks position = some caller)
  (hissue : ∀ issue ∈ (rebuild blocks scripts).issues, issue.block ≠ position)
include hcaller hissue

/-- In the rebuilt tree, a block with a caller and without an issue is in the frame of the block
that it joins, or in a frame that was opened for it. -/
theorem follows_or_opens :
    (∃ index id, Joins blocks position caller index ∧
        (rebuild blocks scripts).frameOf? index = some id ∧
        (rebuild blocks scripts).frameOf? position = some id) ∨
      ((∀ index, ¬ Joins blocks position caller index) ∧
        ∃ id, OpenedAt blocks scripts (rebuild blocks scripts) id position) := by
  have hposition := lt_of_callerAt hcaller
  obtain ⟨placed, hplaced⟩ := exists_placement hposition hissue
  have hframe : (rebuild blocks scripts).frameOf? position = _ := frameOf?_rebuild hposition
  rw [hplaced] at hframe
  rcases placement_ok hcaller hplaced with
    ⟨index, id, hjoins, hindex, rfl⟩ | ⟨parent, hnone, -, rfl⟩
  · exact Or.inl ⟨index, id, hjoins, frameOf?_rebuild_of_partialTree hposition.le hindex, hframe⟩
  · exact Or.inr ⟨hnone, openedAt_rebuild hposition hplaced⟩

theorem exists_frame_of_joins (hjoins : Joins blocks position caller index) :
    ∃ id, (rebuild blocks scripts).frameOf? index = some id ∧
      (rebuild blocks scripts).frameOf? position = some id := by
  rcases follows_or_opens hcaller hissue with ⟨joined, id, hjoined, hframe, hposition⟩ | ⟨hnone, -⟩
  · obtain rfl := hjoins.unique hjoined
    exact ⟨id, hframe, hposition⟩
  · exact absurd hjoins (hnone index)

theorem exists_openedAt (hnone : ¬ ∃ index, Joins blocks position caller index) :
    ∃ id, OpenedAt blocks scripts (rebuild blocks scripts) id position := by
  rcases follows_or_opens hcaller hissue with ⟨index, -, hjoins, -⟩ | ⟨-, hopened⟩
  · exact absurd ⟨index, hjoins⟩ hnone
  · exact hopened

end Placed

/-- The frame that was opened for a block is below that of its caller. -/
theorem OpenedAt.parent {id : FrameId} (hopened : OpenedAt blocks scripts tree id position)
    (hcaller : callerAt blocks position = some caller) :
    ∃ parent, tree.frameOf? caller = some parent ∧ tree.parent? id = some parent := by
  obtain ⟨callSite, parent, hcallSite, -, hparent, -, hframe⟩ := hopened.described
  obtain rfl : callSite = caller := Option.some_inj.mp (hcallSite.symm.trans hcaller)
  exact ⟨parent, hparent, by simp [parent?, hframe]⟩

/-! ## Moves in the tree -/

/-- Without issues, a block with a caller is in a frame whose parent is the frame of the caller. -/
theorem exists_parent_of_callerAt (hissues : (rebuild blocks scripts).issues = [])
    (hcaller : callerAt blocks position = some caller) :
    ∃ inner outer, (rebuild blocks scripts).frameOf? position = some inner ∧
      (rebuild blocks scripts).parent? inner = some outer ∧
      (rebuild blocks scripts).frameOf? caller = some outer := by
  have hdiscovered := rebuild_discovered blocks scripts
  have hcoherent := rebuild_coherent blocks scripts
  obtain ⟨inner, hinner⟩ := hdiscovered.exists_frameOf? (lt_of_callerAt hcaller)
  have hpos : 0 < inner.index := by
    by_contra hzero
    obtain rfl : inner = FrameId.root := congrArg FrameId.mk (Nat.eq_zero_of_not_pos hzero)
    obtain ⟨issue, hissue, -⟩ := hcoherent.fallback position hinner (by simp [hcaller])
    simp [hissues] at hissue
  obtain ⟨frame, callSite, outer, hframe, hcallSite, -, -, houter, hparent, -⟩ :=
    hcoherent.frame_of_block hdiscovered hinner hpos
  obtain rfl : callSite = caller := Option.some_inj.mp (hcallSite.symm.trans hcaller)
  exact ⟨inner, outer, hinner, by simp [parent?, hframe, hparent], houter⟩

/-- **Frames follow control flow.**  Without issues, let `ancestor` be the nearest block with a
resume point on the chain of first predecessors of a block with a caller.  If the two have the same
caller, they are in one frame.  If the caller of the ancestor has that caller, the block is one
level further out, in the parent of the frame of the ancestor.  In all other cases, also when there
is no such ancestor or it has no caller, the block is the first of a frame of its own, whose parent
is the frame of its caller. -/
theorem rebuild_follows_flow (hissues : (rebuild blocks scripts).issues = [])
    (hcaller : callerAt blocks position = some caller) :
    (∀ ancestor, NearestResume blocks position ancestor → callerAt blocks ancestor = some caller →
      ∃ id, (rebuild blocks scripts).frameOf? ancestor = some id ∧
        (rebuild blocks scripts).frameOf? position = some id) ∧
    (∀ ancestor callSite, NearestResume blocks position ancestor →
      callerAt blocks ancestor = some callSite → callSite ≠ caller →
      callerAt blocks callSite = some caller →
      ∃ inner outer, (rebuild blocks scripts).frameOf? ancestor = some inner ∧
        (rebuild blocks scripts).parent? inner = some outer ∧
        (rebuild blocks scripts).frameOf? position = some outer) ∧
    ((∀ ancestor, NearestResume blocks position ancestor →
        callerAt blocks ancestor ≠ some caller ∧
        (callerAt blocks ancestor).bind (callerAt blocks) ≠ some caller) →
      ∃ id parent, (rebuild blocks scripts).frameOf? position = some id ∧
        IsLeast {block | (rebuild blocks scripts).frameOf? block = some id} position ∧
        (rebuild blocks scripts).parent? id = some parent ∧
        (rebuild blocks scripts).frameOf? caller = some parent) := by
  have hissue : ∀ issue ∈ (rebuild blocks scripts).issues, issue.block ≠ position := by
    simp [hissues]
  refine ⟨?_, ?_, ?_⟩
  · intro ancestor hnearest hsame
    exact exists_frame_of_joins hcaller hissue (.inside hnearest hsame)
  · intro ancestor callSite hnearest hcallSite hne hsame
    obtain ⟨id, hid, hposition⟩ :=
      exists_frame_of_joins hcaller hissue (.returned hnearest hcallSite hne hsame)
    -- the frame of the call site is the parent of the frame that control has left
    obtain ⟨inner, outer, hinner, hparent, houter⟩ := exists_parent_of_callerAt hissues hcallSite
    obtain rfl : id = outer := Option.some_inj.mp (hid.symm.trans houter)
    exact ⟨inner, id, hinner, hparent, hposition⟩
  · intro hneither
    have hnone : ¬ ∃ index, Joins blocks position caller index := by
      rintro ⟨index, ⟨hnearest, hsame⟩ | ⟨hnearest, hcallSite, -, hsame⟩⟩
      · exact (hneither _ hnearest).1 hsame
      · exact (hneither _ hnearest).2 (Option.bind_eq_some_iff.mpr ⟨_, hcallSite, hsame⟩)
    obtain ⟨id, hopened⟩ := exists_openedAt hcaller hissue hnone
    obtain ⟨parent, hparent, hid⟩ := hopened.parent hcaller
    exact ⟨id, parent, hopened.least.1, hopened.least, hid, hparent⟩

/-- Block 1 is inlined at block 0 and block 2 at block 1.  Control returns over block 3, which has
no resume point, to block 4, and goes on to block 5. -/
def sampleNested : List Block :=
  [sampleBlock 0 none [], sampleBlock 1 (some 0) [0], sampleBlock 2 (some 1) [1],
    { number := 3, predecessors := [2] }, sampleBlock 4 (some 0) [3], sampleBlock 5 (some 0) [4]]

theorem nearestResume_sampleNested : NearestResume sampleNested 4 2 := by
  refine ⟨2, by decide, by decide, by decide, ?_⟩
  intro earlier position hpos hlt hposition
  obtain rfl : earlier = 1 := by omega
  obtain rfl : 3 = position := Option.some_inj.mp hposition
  decide

theorem sampleNested_follows_flow :
    ∃ inner outer, (rebuild sampleNested []).issues = [] ∧ callerAt sampleNested 4 = some 0 ∧
      (rebuild sampleNested []).frameOf? 2 = some inner ∧
      (rebuild sampleNested []).parent? inner = some outer ∧
      (rebuild sampleNested []).frameOf? 4 = some outer := by
  have hissues : (rebuild sampleNested []).issues = [] := by decide +kernel
  have hcaller : callerAt sampleNested 4 = some 0 := by decide
  obtain ⟨inner, outer, hinner, hparent, houter⟩ :=
    (rebuild_follows_flow hissues hcaller).2.1 2 1 nearestResume_sampleNested
      (by decide) (by decide) (by decide)
  exact ⟨inner, outer, hissues, hcaller, hinner, hparent, houter⟩

/-! ## Blocks with one caller and one ancestor -/

theorem frameOf?_of_callerAt_eq_none (hposition : position < blocks.length)
    (hcaller : callerAt blocks position = none) :
    (rebuild blocks scripts).frameOf? position = some FrameId.root := by
  rw [frameOf?_rebuild hposition, placement_of_callerAt_eq_none hcaller, target]

/-- **When blocks share a frame.**  Take two blocks without an issue that have the same caller, or
none, and the same nearest block with a resume point on their chains.  They are in one frame if
they have no caller, or if that ancestor has their caller, or the caller of the ancestor has it.
Otherwise each of them is the first block of a frame of its own, so that only a block and itself are
in one frame. -/
theorem shares_frame_iff (hfirst : first < blocks.length) (hsecond : second < blocks.length)
    (hfirstIssue : ∀ issue ∈ (rebuild blocks scripts).issues, issue.block ≠ first)
    (hsecondIssue : ∀ issue ∈ (rebuild blocks scripts).issues, issue.block ≠ second)
    (hcallers : callerAt blocks first = callerAt blocks second)
    (hfirstNearest : NearestResume blocks first ancestor)
    (hsecondNearest : NearestResume blocks second ancestor) :
    ((rebuild blocks scripts).frameOf? first = (rebuild blocks scripts).frameOf? second ↔
      first = second ∨ ∀ caller, callerAt blocks first = some caller →
        callerAt blocks ancestor = some caller ∨
          (callerAt blocks ancestor).bind (callerAt blocks) = some caller) ∧
    ∀ caller, callerAt blocks first = some caller →
      ¬ (callerAt blocks ancestor = some caller ∨
          (callerAt blocks ancestor).bind (callerAt blocks) = some caller) →
      (∃ id, OpenedAt blocks scripts (rebuild blocks scripts) id first) ∧
        ∃ id, OpenedAt blocks scripts (rebuild blocks scripts) id second := by
  cases hcaller : callerAt blocks first with
  | none =>
      rw [frameOf?_of_callerAt_eq_none hfirst hcaller,
        frameOf?_of_callerAt_eq_none hsecond (hcallers ▸ hcaller)]
      simp
  | some caller =>
      have hcallerSecond : callerAt blocks second = some caller := hcallers ▸ hcaller
      have hown : ¬ (callerAt blocks ancestor = some caller ∨
          (callerAt blocks ancestor).bind (callerAt blocks) = some caller) →
          (∃ id, OpenedAt blocks scripts (rebuild blocks scripts) id first) ∧
            ∃ id, OpenedAt blocks scripts (rebuild blocks scripts) id second := by
        intro hneither
        exact ⟨exists_openedAt hcaller hfirstIssue
            (fun hjoins => hneither ((exists_joins_iff hfirstNearest).mp hjoins)),
          exists_openedAt hcallerSecond hsecondIssue
            (fun hjoins => hneither ((exists_joins_iff hsecondNearest).mp hjoins))⟩
      simp only [Option.some_inj, forall_eq']
      refine ⟨⟨fun hsame => ?_, ?_⟩, hown⟩
      · by_contra hapart
        push Not at hapart
        obtain ⟨hne, hneither⟩ := hapart
        -- a frame has one least block, so blocks that open their frames are in different ones
        obtain ⟨⟨id, hid⟩, other, hother⟩ := hown (by simpa using hneither)
        obtain rfl : id = other :=
          Option.some_inj.mp (hid.least.1.symm.trans (hsame.trans hother.least.1))
        exact hne (hid.least.unique hother.least)
      · rintro (rfl | hjoined)
        · rfl
        · -- both are in the frame of the block that they join
          obtain ⟨index, hjoins⟩ := (exists_joins_iff hfirstNearest).mpr hjoined
          obtain ⟨id, hid, hframe⟩ := exists_frame_of_joins hcaller hfirstIssue hjoins
          obtain ⟨other, hother, hframeOther⟩ := exists_frame_of_joins hcallerSecond hsecondIssue
            (hjoins.transfer hfirstNearest hsecondNearest)
          rw [hframe, hframeOther, ← hid, hother]

/-- Four blocks are inlined at block 0.  Control comes to blocks 1 and 2 from block 0, which is in
the function itself, and to blocks 3 and 4 from block 1. -/
def sampleBranches : List Block :=
  [sampleBlock 0 none [], sampleBlock 1 (some 0) [0], sampleBlock 2 (some 0) [0],
    sampleBlock 3 (some 0) [1], sampleBlock 4 (some 0) [1]]

theorem sampleBranches_share_frame :
    (rebuild sampleBranches []).issues = [] ∧
      callerAt sampleBranches 3 = callerAt sampleBranches 4 ∧
      NearestResume sampleBranches 3 1 ∧ NearestResume sampleBranches 4 1 ∧
      (rebuild sampleBranches []).frameOf? 3 = (rebuild sampleBranches []).frameOf? 4 := by
  have hissues : (rebuild sampleBranches []).issues = [] := by decide +kernel
  have hcallers : callerAt sampleBranches 3 = callerAt sampleBranches 4 := by decide
  have hfirst : NearestResume sampleBranches 3 1 :=
    nearestResume_of_predecessorAt (by decide) (by decide)
  have hsecond : NearestResume sampleBranches 4 1 :=
    nearestResume_of_predecessorAt (by decide) (by decide)
  refine ⟨hissues, hcallers, hfirst, hsecond, ?_⟩
  refine (shares_frame_iff (by decide) (by decide) (by simp [hissues]) (by simp [hissues]) hcallers
    hfirst hsecond).1.mpr (Or.inr fun caller hcaller => Or.inl ?_)
  rw [← hcaller]
  decide

/-- The same caller and the same nearest ancestor are not enough: each call that is made from the
function itself opens a frame. -/
theorem siblings_apart :
    (rebuild sampleBranches []).issues = [] ∧
      callerAt sampleBranches 1 = some 0 ∧ callerAt sampleBranches 2 = some 0 ∧
      NearestResume sampleBranches 1 0 ∧ NearestResume sampleBranches 2 0 ∧
      (rebuild sampleBranches []).frameOf? 1 ≠ (rebuild sampleBranches []).frameOf? 2 := by
  refine ⟨by decide +kernel, by decide, by decide, ?_, ?_, by decide +kernel⟩
  · exact nearestResume_of_predecessorAt (by decide) (by decide)
  · exact nearestResume_of_predecessorAt (by decide) (by decide)

end CompileWatch.InlineTree
