import CompileWatch.Proofs.InlineTree.Discovery
import Mathlib.Data.Nat.Init

/-!
# What a finished tree remembers

Placing a block only appends, so the tree of the first blocks is the beginning of every
later tree (`Extends`).  What the rebuilt tree says of a block is therefore what its
placement said at the time: `frameOf?_rebuild` gives its frame, `openedAt_rebuild` the
frame that it opened, and `mem_issues_rebuild` its issue.
-/

namespace CompileWatch.InlineTree

variable {blocks : List Block} {scripts : List Script} {tree later last : InlineTree}
  {count more position : Nat} {id : FrameId} {issue : InlineIssue}

/-- The later tree begins with the frames, the blocks and the issues of the earlier one. -/
structure Extends (tree later : InlineTree) : Prop where
  frames : tree.frames <+: later.frames
  blockFrames : tree.blockFrames <+: later.blockFrames
  issues : tree.issues <+: later.issues

theorem Extends.refl (tree : InlineTree) : tree.Extends tree :=
  ⟨List.prefix_rfl, List.prefix_rfl, List.prefix_rfl⟩

theorem Extends.trans (hfirst : tree.Extends later) (hsecond : later.Extends last) :
    tree.Extends last :=
  ⟨hfirst.frames.trans hsecond.frames, hfirst.blockFrames.trans hsecond.blockFrames,
    hfirst.issues.trans hsecond.issues⟩

theorem Extends.frameOf? (hextends : tree.Extends later)
    (hframe : tree.frameOf? position = some id) : later.frameOf? position = some id := by
  obtain ⟨rest, hrest⟩ := hextends.blockFrames
  rw [InlineTree.frameOf?, ← hrest, List.getElem?_append_left (lt_of_frameOf? hframe)]
  exact hframe

/-- The issue that a placement adds, if it adds one. -/
def reported : Except InlineIssue Placement → List InlineIssue
  | .error issue => [issue]
  | .ok _ => []

theorem issues_place (script : Option Script) (placed : Except InlineIssue Placement) :
    (tree.place script placed).issues = tree.issues ++ reported placed := by
  rcases placed with _ | _ | _ <;> simp [place, reported]

theorem mem_reported {placed : Except InlineIssue Placement} :
    issue ∈ reported placed ↔ placed = .error issue := by
  rcases placed with _ | _ <;> simp [reported, eq_comm]

theorem extends_place (script : Option Script) (placed : Except InlineIssue Placement) :
    tree.Extends (tree.place script placed) where
  frames := frames_place script placed ▸ List.prefix_append _ _
  blockFrames := blockFrames_place script placed ▸ List.prefix_append _ _
  issues := issues_place script placed ▸ List.prefix_append _ _

theorem partialTree_extends (hle : count ≤ more) :
    (partialTree blocks scripts count).Extends (partialTree blocks scripts more) := by
  induction more, hle using Nat.le_induction with
  | base => exact Extends.refl _
  | succ more _ ih =>
      rw [partialTree_succ]
      exact ih.trans (extends_place _ _)

/-! ## Frames -/

/-- A block keeps the frame that it was placed in. -/
theorem frameOf?_rebuild (hposition : position < blocks.length) :
    (rebuild blocks scripts).frameOf? position =
      some ((partialTree blocks scripts position).target
        (placement blocks (partialTree blocks scripts position) position)) := by
  rw [rebuild_eq_partialTree]
  refine (partialTree_extends (Nat.succ_le_of_lt hposition)).frameOf? ?_
  rw [partialTree_succ, frameOf?_place_eq_some]
  exact Or.inr ⟨(partialTree_discovered blocks scripts position).covers.1.symm, rfl⟩

/-- The frame that a block was placed in when it was needed for another one. -/
theorem frameOf?_rebuild_of_partialTree (hle : count ≤ blocks.length)
    (hframe : (partialTree blocks scripts count).frameOf? position = some id) :
    (rebuild blocks scripts).frameOf? position = some id :=
  (partialTree_extends hle).frameOf? hframe

theorem openedAt_partialTree (hle : count ≤ more)
    (hopened : OpenedAt blocks scripts (partialTree blocks scripts count) id position) :
    OpenedAt blocks scripts (partialTree blocks scripts more) id position := by
  induction more, hle using Nat.le_induction with
  | base => exact hopened
  | succ more _ ih =>
      rw [partialTree_succ]
      exact Discovered.openedAt_place ih _ _

/-- A block for which a frame was opened is the first of that frame for good. -/
theorem openedAt_rebuild {parent : FrameId} {callSite : Nat} (hposition : position < blocks.length)
    (hplaced : placement blocks (partialTree blocks scripts position) position =
      .ok (.opening parent callSite)) :
    ∃ id, OpenedAt blocks scripts (rebuild blocks scripts) id position := by
  have hopened := (partialTree_discovered blocks scripts position).openedAt_new hplaced
  rw [← hplaced, ← partialTree_succ] at hopened
  exact ⟨_, openedAt_partialTree (Nat.succ_le_of_lt hposition) hopened⟩

/-! ## Issues -/

/-- The issues are those of the placements, and each names the block that was placed. -/
theorem mem_issues_partialTree :
    issue ∈ (partialTree blocks scripts count).issues ↔
      issue.block < count ∧
        placement blocks (partialTree blocks scripts issue.block) issue.block = .error issue := by
  induction count with
  | zero => simp [partialTree_zero, seed]
  | succ count ih =>
      rw [partialTree_succ, issues_place, List.mem_append, ih, mem_reported]
      constructor
      · rintro (⟨hlt, hplaced⟩ | hplaced)
        · exact ⟨Nat.lt_succ_of_lt hlt, hplaced⟩
        · obtain rfl : issue.block = count := (placement_error hplaced).2
          exact ⟨Nat.lt_succ_self _, hplaced⟩
      · rintro ⟨hlt, hplaced⟩
        rcases Nat.lt_succ_iff_lt_or_eq.mp hlt with hbefore | rfl
        · exact Or.inl ⟨hbefore, hplaced⟩
        · exact Or.inr hplaced

theorem mem_issues_rebuild :
    issue ∈ (rebuild blocks scripts).issues ↔
      issue.block < blocks.length ∧
        placement blocks (partialTree blocks scripts issue.block) issue.block = .error issue :=
  mem_issues_partialTree

/-- A block without an issue was placed somewhere. -/
theorem exists_placement (hposition : position < blocks.length)
    (hissue : ∀ issue ∈ (rebuild blocks scripts).issues, issue.block ≠ position) :
    ∃ placed, placement blocks (partialTree blocks scripts position) position = .ok placed := by
  cases hplaced : placement blocks (partialTree blocks scripts position) position with
  | ok placed => exact ⟨placed, rfl⟩
  | error issue =>
      obtain rfl : issue.block = position := (placement_error hplaced).2
      exact absurd rfl (hissue issue (mem_issues_rebuild.mpr ⟨hposition, hplaced⟩))

end CompileWatch.InlineTree
