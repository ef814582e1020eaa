import CompileWatch.Proofs.InlineTree.Flow

/-!
# Issues

A block that cannot be placed has an issue, which says why.  `Truthful` is what each kind
of issue says of the blocks, and `truthful_of_placement` that it is so: the issue names a
position that is needed to place the block and that does not exist or has no frame yet,
or a chain of predecessors that comes back to itself before any resume point.

None of the positions that a block needs lies below it then.  So there are no issues when
predecessors and callers come before their blocks: that half needs no second look at the
rebuilding.
-/

namespace CompileWatch.InlineTree

variable {blocks : List Block} {scripts : List Script} {tree : InlineTree}
  {start position caller index steps earlier : Nat} {issue : InlineIssue}

/-! ## Chains that come back, and chains that go down -/

theorem chainAt_add (blocks : List Block) (start first second : Nat) :
    chainAt blocks start (first + second) =
      (chainAt blocks start first).bind (chainAt blocks · second) := by
  induction second with
  | zero => simp [chainAt]
  | succ second ih => rw [Nat.add_succ, chainAt, ih, Option.bind_assoc]; rfl

/-- A chain that has come back goes on to where it was before. -/
theorem exists_chainAt_eq (hearlier : earlier < steps)
    (hsame : chainAt blocks start steps = chainAt blocks start earlier) (more : Nat) :
    ∃ before < steps, chainAt blocks start more = chainAt blocks start before := by
  induction more with
  | zero => exact ⟨0, Nat.zero_lt_of_lt hearlier, rfl⟩
  | succ more ih =>
      obtain ⟨before, hlt, hbefore⟩ := ih
      have hnext : chainAt blocks start (more + 1) = chainAt blocks start (before + 1) := by
        rw [chainAt, hbefore, ← chainAt]
      rcases Nat.lt_or_eq_of_le (Nat.succ_le_of_lt hlt) with hsucc | rfl
      · exact ⟨before + 1, hsucc, hnext⟩
      · exact ⟨earlier, hearlier, hnext.trans hsame⟩

/-- Predecessors and callers come before the blocks that name them. -/
def Descending (blocks : List Block) : Prop :=
  ∀ position, (∀ index, predecessorAt blocks position = some index → index < position) ∧
    ∀ index, callerAt blocks position = some index → index < position

theorem Descending.chainAt_le (hdescending : Descending blocks)
    (hindex : chainAt blocks start steps = some index) : index + steps ≤ start := by
  induction steps generalizing index with
  | zero => exact (Option.some_inj.mp hindex).ge
  | succ steps ih =>
      obtain ⟨before, hbefore, hprevious⟩ := Option.bind_eq_some_iff.mp hindex
      have hle := ih hbefore
      have hlt := (hdescending before).1 index hprevious
      omega

/-! ## What an issue says -/

/-- The positions that are needed to place a block: those on its chain of predecessors, its caller
and the caller of its nearest ancestor. -/
inductive Needs (blocks : List Block) (position : Nat) : Nat → Prop
  | predecessor {steps index : Nat} :
      0 < steps → chainAt blocks position steps = some index → Needs blocks position index
  | caller {index : Nat} : callerAt blocks position = some index → Needs blocks position index
  | ancestorCaller {ancestor index : Nat} :
      NearestResume blocks position ancestor → callerAt blocks ancestor = some index →
        Needs blocks position index

theorem Joins.needs (hjoins : Joins blocks position caller index) :
    Needs blocks position index := by
  cases hjoins with
  | inside hnearest =>
      obtain ⟨steps, hpos, hindex, -⟩ := hnearest
      exact .predecessor hpos hindex
  | returned hnearest hcallSite => exact .ancestorCaller hnearest hcallSite

theorem Needs.lt_of_descending (hneeds : Needs blocks position index)
    (hdescending : Descending blocks) : index < position := by
  have hchain : ∀ {steps other}, 0 < steps → chainAt blocks position steps = some other →
      other < position := by
    intro steps other hpos hother
    have hle := hdescending.chainAt_le hother
    omega
  cases hneeds with
  | predecessor hpos hindex => exact hchain hpos hindex
  | caller hcaller => exact (hdescending position).2 index hcaller
  | ancestorCaller hnearest hcaller =>
      obtain ⟨steps, hpos, hancestor, -⟩ := hnearest
      exact ((hdescending _).2 index hcaller).trans (hchain hpos hancestor)

/-- What an issue says of the blocks. -/
def Truthful (blocks : List Block) : InlineIssue → Prop
  | .cycle block revisited =>
    (∃ earlier steps, earlier < steps ∧ chainAt blocks block earlier = some revisited ∧
      chainAt blocks block steps = some revisited) ∧
    ∀ steps position, chainAt blocks block steps = some position → position ≠ block →
      resumesAt blocks position = false
  | .outOfRange block index => Needs blocks block index ∧ blocks.length ≤ index
  | .unassigned block referenced =>
    Needs blocks block referenced ∧ block ≤ referenced ∧ referenced < blocks.length

theorem Truthful.not_descending (htruthful : Truthful blocks issue)
    (hblock : issue.block < blocks.length) : ¬ Descending blocks := by
  intro hdescending
  cases issue with
  | cycle block revisited =>
      obtain ⟨⟨earlier, steps, hlt, hearlier, hsteps⟩, -⟩ := htruthful
      obtain ⟨more, rfl⟩ := Nat.exists_eq_add_of_lt hlt
      rw [Nat.add_assoc, chainAt_add, hearlier, Option.bind_some] at hsteps
      have hle := hdescending.chainAt_le hsteps
      omega
  | outOfRange block index =>
      have hlt := htruthful.1.lt_of_descending hdescending
      exact absurd (htruthful.2.trans_lt (hlt.trans hblock)) (Nat.lt_irrefl _)
  | unassigned block referenced =>
      exact absurd (htruthful.1.lt_of_descending hdescending) (not_lt.mpr htruthful.2.1)

/-! ## Issues are truthful -/

theorem truthful_of_walkEnds (hends : WalkEnds blocks start (.error issue)) :
    Truthful blocks issue := by
  obtain ⟨steps, hpos, hstops, hpasses⟩ := hends
  cases hstops with
  | missing hindex hge => exact ⟨.predecessor hpos hindex, hge⟩
  | @returned _ earlier hindex _ hearlier hbefore =>
      refine ⟨⟨earlier, steps, hearlier, hbefore, hindex⟩, ?_⟩
      intro more position hposition hne
      -- the walk has seen the whole chain, and passed by all of it after the start
      obtain ⟨before, hlt, hsame⟩ := exists_chainAt_eq hearlier (hindex.trans hbefore.symm) more
      rcases Nat.eq_zero_or_pos before with rfl | hbeforePos
      · exact absurd (Option.some_inj.mp (hposition.symm.trans hsame)) hne
      · obtain ⟨passed, -, hpassed, -, hplain⟩ := hpasses before hbeforePos hlt
        obtain rfl : position = passed :=
          Option.some_inj.mp (hposition.symm.trans (hsame.trans hpassed))
        exact hplain

/-- A frame that is not known yet is that of a block which is not placed yet. -/
theorem truthful_of_requireFrame (hneeds : Needs blocks position index)
    (hplaced : tree.blockFrames.length = position)
    (hissue : requireFrame blocks tree position index = .error issue) : Truthful blocks issue := by
  rw [requireFrame_eq] at hissue
  split at hissue
  case isTrue hlt =>
    split at hissue <;> cases hissue
    case h_1 hnone => exact ⟨hneeds, hplaced ▸ frameOf?_eq_none_iff.mp hnone, hlt⟩
  case isFalse hge =>
    cases hissue
    exact ⟨hneeds, Nat.not_lt.mp hge⟩

theorem truthful_of_joined? (hissue : joined? blocks position caller = .error issue) :
    Truthful blocks issue := by
  cases joined?_iff.mp hissue with
  | lost hwalk => exact truthful_of_walkEnds (hwalk ▸ ancestor_walkEnds blocks position)
  | missing hwalk hcallSite _ hge =>
      exact ⟨.ancestorCaller ((nearestResume_iff hwalk).mpr rfl) hcallSite, hge⟩

theorem truthful_of_placement (hplaced : tree.blockFrames.length = position)
    (hissue : placement blocks tree position = .error issue) : Truthful blocks issue := by
  obtain ⟨caller, hcaller, hsearch | ⟨index, hjoins | rfl, hframe⟩⟩ := placement_error_cases hissue
  · exact truthful_of_joined? hsearch
  · exact truthful_of_requireFrame hjoins.needs hplaced hframe
  · exact truthful_of_requireFrame (.caller hcaller) hplaced hframe

/-! ## The issues of a rebuilt tree -/

/-- Issues are in the order of their blocks, with at most one for each. -/
theorem partialTree_issues_pairwise (blocks : List Block) (scripts : List Script) (count : Nat) :
    ((partialTree blocks scripts count).issues.map InlineIssue.block).Pairwise (· < ·) := by
  induction count with
  | zero => simp [partialTree_zero, seed]
  | succ count ih =>
      rw [partialTree_succ, issues_place, List.map_append, List.pairwise_append]
      refine ⟨ih, ?_, ?_⟩
      · cases placement blocks (partialTree blocks scripts count) count <;> simp [reported]
      · intro before hbefore last hlast
        obtain ⟨issue, hissue, rfl⟩ := List.mem_map.mp hbefore
        obtain ⟨new, hnew, rfl⟩ := List.mem_map.mp hlast
        rw [(placement_error (mem_reported.mp hnew)).2]
        exact (mem_issues_partialTree.mp hissue).1

/-- A block with an issue opens no frame and is in the root. -/
theorem frames_of_issue (hissue : issue ∈ (rebuild blocks scripts).issues) :
    (partialTree blocks scripts (issue.block + 1)).frames =
        (partialTree blocks scripts issue.block).frames ∧
      (rebuild blocks scripts).frameOf? issue.block = some FrameId.root := by
  obtain ⟨hblock, hplaced⟩ := mem_issues_rebuild.mp hissue
  constructor
  · rw [partialTree_succ, frames_place, hplaced]
    exact List.append_nil _
  · rw [frameOf?_rebuild hblock, hplaced, target]

/-- **Issues are sound, and absent from well-ordered blocks.**  Issues are in the order of their
blocks, with at most one for each.  A block with an issue has a caller; it is in the root, no frame
was added when it was placed, and it is the first block of no frame but the root; and what its
issue says of the blocks is so.  If the first predecessor and the caller of every block come before
it, there are no issues. -/
theorem rebuild_issues (blocks : List Block) (scripts : List Script) :
    ((rebuild blocks scripts).issues.map InlineIssue.block).Pairwise (· < ·) ∧
    (∀ issue ∈ (rebuild blocks scripts).issues,
      callerAt blocks issue.block ≠ none ∧
      (rebuild blocks scripts).frameOf? issue.block = some FrameId.root ∧
      (partialTree blocks scripts (issue.block + 1)).frames =
        (partialTree blocks scripts issue.block).frames ∧
      (∀ id, ¬ OpenedAt blocks scripts (rebuild blocks scripts) id issue.block) ∧
      Truthful blocks issue) ∧
    (Descending blocks → (rebuild blocks scripts).issues = []) := by
  have htruthful : ∀ issue ∈ (rebuild blocks scripts).issues, Truthful blocks issue := by
    intro issue hissue
    obtain ⟨-, hplaced⟩ := mem_issues_rebuild.mp hissue
    exact truthful_of_placement (partialTree_discovered _ _ _).covers.1 hplaced
  refine ⟨partialTree_issues_pairwise _ _ _, ?_, ?_⟩
  · intro issue hissue
    obtain ⟨-, hplaced⟩ := mem_issues_rebuild.mp hissue
    obtain ⟨hframes, hroot⟩ := frames_of_issue hissue
    refine ⟨(placement_error hplaced).1, hroot, hframes, ?_, htruthful issue hissue⟩
    intro id hopened
    -- a frame that was opened at a block has a call site, and the root has none
    obtain rfl : id = FrameId.root := Option.some_inj.mp (hopened.least.1.symm.trans hroot)
    obtain ⟨_, _, -, -, -, -, hframe⟩ := hopened.described
    simp [(rebuild_discovered blocks scripts).root] at hframe
  · intro hdescending
    refine List.eq_nil_iff_forall_not_mem.mpr fun issue hissue => ?_
    exact (htruthful issue hissue).not_descending (mem_issues_rebuild.mp hissue).1 hdescending

/-- Block 1 misses its caller, block 2 is placed before the block it was inlined at, and the chain
of block 5 loops between blocks 3 and 4. -/
def sampleTangled : List Block :=
  [sampleBlock 0 none [], sampleBlock 1 (some 9) [0], sampleBlock 2 (some 3) [0],
    { number := 3, predecessors := [4] }, { number := 4, predecessors := [3] },
    sampleBlock 5 (some 0) [3]]

theorem sampleTangled_issues :
    (rebuild sampleTangled []).issues = [.outOfRange 1 9, .unassigned 2 3, .cycle 5 3] ∧
      Truthful sampleTangled (.cycle 5 3) ∧
      Descending sampleNested ∧ (rebuild sampleNested []).issues = [] := by
  have hissues : (rebuild sampleTangled []).issues =
      [.outOfRange 1 9, .unassigned 2 3, .cycle 5 3] := by decide +kernel
  have hdescending : Descending sampleNested := by
    intro position
    match position with
    | 0 | 1 | 2 | 3 | 4 | 5 =>
        simp [predecessorAt, callerAt, sampleNested, sampleBlock, Block.firstPredecessor?,
          Block.caller?, Block.callerWord?]
    | position + 6 => simp [predecessorAt, callerAt, sampleNested]
  obtain ⟨-, hsound, -⟩ := rebuild_issues sampleTangled []
  obtain ⟨-, -, habsent⟩ := rebuild_issues sampleNested []
  exact ⟨hissues, (hsound _ (by simp [hissues])).2.2.2.2, hdescending, habsent hdescending⟩

end CompileWatch.InlineTree
