import CompileWatch.Proofs.InlineTree.Issue
import CompileWatch.Proofs.InlineTree.Locality

/-!
# What a tree depends on

Of a block, the rebuilding reads whether there is a resume point, the caller that it names
and the first predecessor.  Nothing else matters: neither the number of the block nor its
instructions, and neither further predecessors nor successors.

The argument compares two compilations.

* **The blocks.**  Blocks that agree in these three (`Alike`) make lists that resemble each
  other, as in the comparison with longer lists.  Lists of one length miss the same
  positions, so here no placement has to be excluded (`partialTree_of_alike`).
* **The scripts.**  A placement looks up the frames of blocks and no script, so a tree may
  be stripped of its scripts before a block is placed or after (`unscripted_place`).  Any
  two lists of scripts therefore lead to the tree that is rebuilt without scripts
  (`unscripted_rebuild`).
-/

namespace CompileWatch.InlineTree

variable {blocks others : List Block} {scripts otherScripts : List Script} {tree : InlineTree}
  {position count : Nat}

/-! ## Blocks that are read alike -/

/-- The blocks agree in what the rebuilding reads. -/
structure Alike (block other : Block) : Prop where
  resumes : block.resumePoint.isSome = other.resumePoint.isSome
  caller : block.caller? = other.caller?
  predecessor : block.firstPredecessor? = other.firstPredecessor?

theorem exists_alike (halike : List.Forall₂ Alike blocks others)
    (hposition : position < blocks.length) :
    ∃ block other, blocks[position]? = some block ∧ others[position]? = some other ∧
      Alike block other := by
  have hother : position < others.length := halike.length_eq ▸ hposition
  refine ⟨blocks[position], others[position], List.getElem?_eq_getElem hposition,
    List.getElem?_eq_getElem hother, ?_⟩
  exact (List.forall₂_iff_get.mp halike).2 position hposition hother

theorem resembles_of_alike (halike : List.Forall₂ Alike blocks others) :
    Resembles blocks others where
  length_le := halike.length_eq.le
  caller := by
    intro position hposition
    obtain ⟨block, other, hblock, hother, hsame⟩ := exists_alike halike hposition
    rw [callerAt, callerAt, hblock, hother, Option.bind_some, Option.bind_some, hsame.caller]
  predecessor := by
    intro position hposition
    obtain ⟨block, other, hblock, hother, hsame⟩ := exists_alike halike hposition
    rw [predecessorAt, predecessorAt, hblock, hother, Option.bind_some, Option.bind_some,
      hsame.predecessor]
  resumes := by
    intro position hposition
    obtain ⟨block, other, hblock, hother, hsame⟩ := exists_alike halike hposition
    rw [resumesAt_of_getElem? hblock, resumesAt_of_getElem? hother, hsame.resumes]

/-- A position that is missed in a list of blocks lies outside of it. -/
theorem lasting_placement (hplaced : tree.blockFrames.length = position) :
    Lasting blocks (placement blocks tree position) := by
  intro block index hmissing
  have htruthful : Truthful blocks (.outOfRange block index) :=
    truthful_of_placement hplaced hmissing
  exact htruthful.2

theorem partialTree_of_alike (halike : List.Forall₂ Alike blocks others)
    (hcount : count ≤ blocks.length) :
    partialTree others scripts count = partialTree blocks scripts count := by
  refine partialTree_of_lasting (resembles_of_alike halike) ?_ hcount
  intro position _ block index hmissing
  rw [← halike.length_eq]
  exact lasting_placement (partialTree_discovered blocks scripts position).covers.1 block index
    hmissing

theorem rebuild_of_alike (halike : List.Forall₂ Alike blocks others) :
    rebuild others scripts = rebuild blocks scripts := by
  rw [rebuild_eq_partialTree, rebuild_eq_partialTree, ← halike.length_eq]
  exact partialTree_of_alike halike (Nat.le_refl _)

/-! ## Trees without scripts -/

/-- The tree without the scripts of its frames. -/
def unscripted (tree : InlineTree) : InlineTree :=
  { tree with frames := tree.frames.map fun frame => { frame with script := none } }

theorem blockFrames_unscripted (tree : InlineTree) :
    tree.unscripted.blockFrames = tree.blockFrames := rfl

theorem issues_unscripted (tree : InlineTree) : tree.unscripted.issues = tree.issues := rfl

theorem requireFrame_unscripted (index : Nat) :
    requireFrame blocks tree.unscripted position index =
      requireFrame blocks tree position index := by
  rw [requireFrame_eq, requireFrame_eq, frameOf?, blockFrames_unscripted, ← frameOf?]

/-- Where a block belongs does not depend on the scripts of the frames. -/
theorem placement_unscripted :
    placement blocks tree.unscripted position = placement blocks tree position := by
  unfold placement
  simp only [requireFrame_unscripted]

theorem unscripted_place (script : Option Script) (placed : Except InlineIssue Placement) :
    (tree.place script placed).unscripted = tree.unscripted.place none placed := by
  rcases placed with issue | frame | ⟨parent, callSite⟩ <;> simp [place, unscripted]

theorem unscripted_partialTree (count : Nat) :
    (partialTree blocks scripts count).unscripted = partialTree blocks [] count := by
  induction count with
  | zero => rfl
  | succ count ih =>
      rw [partialTree_succ, partialTree_succ, unscripted_place, ih, ← ih, placement_unscripted]
      rfl

theorem unscripted_rebuild (blocks : List Block) (scripts : List Script) :
    (rebuild blocks scripts).unscripted = rebuild blocks [] := by
  rw [rebuild_eq_partialTree, rebuild_eq_partialTree]
  exact unscripted_partialTree blocks.length

/-- What is known of a frame besides its script. -/
def outline (frame : InlineFrame) : Option FrameId × Nat × Option Nat :=
  (frame.parent, frame.style, frame.callSite)

theorem outline_unscripted (tree : InlineTree) :
    tree.unscripted.frames.map outline = tree.frames.map outline := by
  rw [unscripted, List.map_map]
  rfl

/-- **What a tree depends on.**  Take two lists of blocks of one length that agree, at each
position, on whether there is a resume point, on its caller and on the first predecessor.  Whatever
else is different, and whatever the scripts are, both trees put each block in the same frame, find
the same issues, and have frames with the same parents, styles and call sites.  With the same
scripts the trees are equal. -/
theorem rebuild_depends_on (halike : List.Forall₂ Alike blocks others) :
    (rebuild blocks scripts).blockFrames = (rebuild others otherScripts).blockFrames ∧
    (rebuild blocks scripts).issues = (rebuild others otherScripts).issues ∧
    (rebuild blocks scripts).frames.map outline =
      (rebuild others otherScripts).frames.map outline ∧
    (scripts = otherScripts → rebuild blocks scripts = rebuild others otherScripts) := by
  have hunscripted :
      (rebuild blocks scripts).unscripted = (rebuild others otherScripts).unscripted := by
    rw [unscripted_rebuild, unscripted_rebuild, rebuild_of_alike halike]
  refine ⟨?_, ?_, ?_, ?_⟩
  · rw [← blockFrames_unscripted, hunscripted, blockFrames_unscripted]
  · rw [← issues_unscripted, hunscripted, issues_unscripted]
  · rw [← outline_unscripted, hunscripted, outline_unscripted]
  · rintro rfl
    exact (rebuild_of_alike halike).symm

/-- The blocks of `sampleNested` with other numbers, modes, attributes, instructions and successors,
and with more predecessors. -/
def sampleRestyled : List Block :=
  [{ sampleBlock 40 none [] with attributes := ["loopheader"] },
    { sampleBlock 41 (some 0) [0, 5] with successors := [2, 9] },
    { sampleBlock 42 (some 1) [1] with resumePoint := some { mode := .outer, caller := some 1 } },
    { number := 7, predecessors := [2, 2], instructions := [{ id := 3, opcode := "Goto" }] },
    sampleBlock 7 (some 0) [3], sampleBlock 45 (some 0) [4, 1]]

def sampleScripts : List Script := [{ url := "outer.js" }, { url := "inner.js" }]

theorem sampleRestyled_agrees :
    List.Forall₂ Alike sampleNested sampleRestyled ∧
      (rebuild sampleNested []).blockFrames =
        (rebuild sampleRestyled sampleScripts).blockFrames ∧
      (rebuild sampleNested []).issues = (rebuild sampleRestyled sampleScripts).issues ∧
      (rebuild sampleNested []).frames.map outline =
        (rebuild sampleRestyled sampleScripts).frames.map outline ∧
      rebuild sampleNested sampleScripts = rebuild sampleRestyled sampleScripts := by
  have halike : List.Forall₂ Alike sampleNested sampleRestyled :=
    .cons ⟨rfl, rfl, rfl⟩ (.cons ⟨rfl, rfl, rfl⟩ (.cons ⟨rfl, rfl, rfl⟩
      (.cons ⟨rfl, rfl, rfl⟩ (.cons ⟨rfl, rfl, rfl⟩ (.cons ⟨rfl, rfl, rfl⟩ .nil)))))
  obtain ⟨hframes, hissues, houtlines, -⟩ := rebuild_depends_on halike
  obtain ⟨-, -, -, hequal⟩ := rebuild_depends_on halike
  exact ⟨halike, hframes, hissues, houtlines, hequal rfl⟩

end CompileWatch.InlineTree
