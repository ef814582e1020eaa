import CompileWatch.Proofs.InlineTree.Rule
import CompileWatch.Proofs.Outcome

/-!
# One step of the rebuilding

The tree is rebuilt by placing one block after the other, so every fact about it is
an induction over the number of blocks placed.  `partialTree` is the tree after some
of them, and `place` adds one block to it.

What a placement can be is said once, in terms of callers and of the block to continue
(`Joins`):

* `placement_ok`: a block with a caller joins the frame of the block that it continues, or
  opens a frame if there is none to continue;
* `placement_join`: a block that joins a frame has no caller and joins the root, or it
  joins the frame of a block with the same caller;
* `placement_opening`: a block that opens a frame opens it for its caller, below the
  frame of its caller;
* `placement_error_cases` and `placement_error`: where a placement can fail; only blocks
  with a caller have issues, and the issue names the block.

The walk along the predecessors decides between these cases and is not seen any more
behind them.
-/

namespace CompileWatch.InlineTree

open Outcome

variable {blocks : List Block} {scripts : List Script} {tree : InlineTree}
  {position caller : Nat} {id parent : FrameId}

/-- The tree of the first blocks. -/
def partialTree (blocks : List Block) (scripts : List Script) (count : Nat) : InlineTree :=
  (List.range count).foldl
    (fun tree position => tree.place scripts[position]? (placement blocks tree position))
    (seed scripts)

theorem partialTree_zero : partialTree blocks scripts 0 = seed scripts := rfl

theorem partialTree_succ (count : Nat) :
    partialTree blocks scripts (count + 1) =
      (partialTree blocks scripts count).place scripts[count]?
        (placement blocks (partialTree blocks scripts count) count) := by
  simp [partialTree, List.range_succ]

theorem rebuild_eq_partialTree :
    rebuild blocks scripts = partialTree blocks scripts blocks.length := rfl

/-! ## What a placement can be -/

theorem requireFrame_ok {index : Nat}
    (hframe : requireFrame blocks tree position index = .ok id) :
    tree.frameOf? index = some id := by
  rw [requireFrame_eq] at hframe
  split at hframe
  · split at hframe <;> simp_all
  · cases hframe

theorem requireFrame_error {index : Nat} {issue : InlineIssue}
    (hissue : requireFrame blocks tree position index = .error issue) :
    issue.block = position := by
  rw [requireFrame_eq] at hissue
  split at hissue
  · split at hissue <;> cases hissue
    rfl
  · cases hissue
    rfl

theorem joined?_error {issue : InlineIssue}
    (hissue : joined? blocks position caller = .error issue) : issue.block = position := by
  cases joined?_iff.mp hissue with
  | lost hwalk => exact (hwalk ▸ ancestor_walkEnds blocks position).block_eq
  | missing => rfl

theorem placement_of_callerAt_eq_none (hcaller : callerAt blocks position = none) :
    placement blocks tree position = .ok (.join FrameId.root) := by
  have hnone : blocks[position]?.bind Block.caller? = none := hcaller
  rw [placement, hnone]

/-- A block with a caller joins the frame of the block that it continues, or opens a frame below
that of its caller if there is none to continue. -/
theorem placement_ok {placed : Placement} (hcaller : callerAt blocks position = some caller)
    (hplaced : placement blocks tree position = .ok placed) :
    (∃ index id, Joins blocks position caller index ∧ tree.frameOf? index = some id ∧
        placed = .join id) ∨
      (∃ parent, (∀ index, ¬ Joins blocks position caller index) ∧
        tree.frameOf? caller = some parent ∧ placed = .opening parent caller) := by
  have hnamed : blocks[position]?.bind Block.caller? = some caller := hcaller
  rw [placement, hnamed] at hplaced
  obtain ⟨answer, hjoined, hplaced⟩ := bind_eq_ok.mp hplaced
  cases answer with
  | some index =>
      obtain ⟨id, hframe, hplaced⟩ := bind_eq_ok.mp hplaced
      cases hplaced
      exact Or.inl ⟨index, id, (joins_iff hjoined).mpr rfl, requireFrame_ok hframe, rfl⟩
  | none =>
      obtain ⟨parent, hframe, hplaced⟩ := bind_eq_ok.mp hplaced
      cases hplaced
      exact Or.inr ⟨parent, fun index => by simp [joins_iff hjoined], requireFrame_ok hframe, rfl⟩

theorem placement_join (hplacement : placement blocks tree position = .ok (.join id)) :
    (callerAt blocks position = none ∧ id = FrameId.root) ∨
      ∃ caller index, callerAt blocks position = some caller ∧
        callerAt blocks index = some caller ∧ tree.frameOf? index = some id := by
  cases hcaller : callerAt blocks position with
  | none =>
      rw [placement_of_callerAt_eq_none hcaller] at hplacement
      cases hplacement
      exact Or.inl ⟨rfl, rfl⟩
  | some caller =>
      rcases placement_ok hcaller hplacement with ⟨index, _, hjoins, hframe, hid⟩ | ⟨_, -, -, hid⟩
      · cases hid
        exact Or.inr ⟨caller, index, rfl, hjoins.callerAt_eq, hframe⟩
      · cases hid

theorem placement_opening {callSite : Nat}
    (hplacement : placement blocks tree position = .ok (.opening parent callSite)) :
    callerAt blocks position = some callSite ∧ tree.frameOf? callSite = some parent := by
  cases hcaller : callerAt blocks position with
  | none =>
      rw [placement_of_callerAt_eq_none hcaller] at hplacement
      cases hplacement
  | some caller =>
      rcases placement_ok hcaller hplacement with ⟨_, _, -, -, hid⟩ | ⟨_, -, hframe, hid⟩
      · cases hid
      · cases hid
        exact ⟨rfl, hframe⟩

/-- A placement fails in the search for the block to continue, or because that block or the caller
has no frame. -/
theorem placement_error_cases {issue : InlineIssue}
    (hplacement : placement blocks tree position = .error issue) :
    ∃ caller, callerAt blocks position = some caller ∧
      (joined? blocks position caller = .error issue ∨
        ∃ index, (Joins blocks position caller index ∨ index = caller) ∧
          requireFrame blocks tree position index = .error issue) := by
  cases hcaller : callerAt blocks position with
  | none =>
      rw [placement_of_callerAt_eq_none hcaller] at hplacement
      cases hplacement
  | some caller =>
      have hnamed : blocks[position]?.bind Block.caller? = some caller := hcaller
      rw [placement, hnamed] at hplacement
      refine ⟨caller, rfl, ?_⟩
      rcases bind_eq_error.mp hplacement with hsearch | ⟨answer, hjoined, hplacement⟩
      · exact Or.inl hsearch
      · cases answer with
        | some index =>
            rcases bind_eq_error.mp hplacement with hframe | ⟨frame, -, hplacement⟩
            · exact Or.inr ⟨index, Or.inl ((joins_iff hjoined).mpr rfl), hframe⟩
            · cases hplacement
        | none =>
            rcases bind_eq_error.mp hplacement with hframe | ⟨frame, -, hplacement⟩
            · exact Or.inr ⟨caller, Or.inr rfl, hframe⟩
            · cases hplacement

theorem placement_error {issue : InlineIssue}
    (hplacement : placement blocks tree position = .error issue) :
    callerAt blocks position ≠ none ∧ issue.block = position := by
  obtain ⟨caller, hcaller, hsearch | ⟨index, -, hframe⟩⟩ := placement_error_cases hplacement
  · exact ⟨by simp [hcaller], joined?_error hsearch⟩
  · exact ⟨by simp [hcaller], requireFrame_error hframe⟩

end CompileWatch.InlineTree
