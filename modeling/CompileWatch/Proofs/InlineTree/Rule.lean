import CompileWatch.Proofs.InlineTree.Walk

/-!
# Which block a block continues

Control comes to an inlined block from the nearest block with a resume point on its chain
of first predecessors.  `Joins` says which block it then continues: that block, if both
have the same caller, or the caller of that block, if control has returned from an
inlined call.

`joined?_iff` lists all that the rebuilding can answer when it looks for that block, in
terms of the walk and of callers.  What is proved of the answer elsewhere is a case
analysis over this list (`Joined`).
-/

namespace CompileWatch.InlineTree

variable {blocks : List Block} {position caller index found first second : Nat}

/-- The block at `position`, with the given caller, continues the one at the last position: the
nearest block with a resume point on its chain, or the call site that control has returned to. -/
inductive Joins (blocks : List Block) (position caller : Nat) : Nat → Prop
  | inside {ancestor : Nat} :
      NearestResume blocks position ancestor → callerAt blocks ancestor = some caller →
        Joins blocks position caller ancestor
  | returned {ancestor callSite : Nat} :
      NearestResume blocks position ancestor → callerAt blocks ancestor = some callSite →
        callSite ≠ caller → callerAt blocks callSite = some caller →
        Joins blocks position caller callSite

theorem Joins.callerAt_eq (hjoins : Joins blocks position caller index) :
    callerAt blocks index = some caller := by
  cases hjoins with
  | inside _ hsame => exact hsame
  | returned _ _ _ hsame => exact hsame

theorem Joins.unique (hfirst : Joins blocks position caller first)
    (hsecond : Joins blocks position caller second) : first = second := by
  cases hfirst with
  | inside hnearest hsame =>
      cases hsecond with
      | inside hother => exact hnearest.unique hother
      | returned hother hcallSite hne =>
          obtain rfl := hnearest.unique hother
          exact absurd (Option.some_inj.mp (hcallSite.symm.trans hsame)) hne
  | returned hnearest hcallSite hne =>
      cases hsecond with
      | inside hother hsame =>
          obtain rfl := hnearest.unique hother
          exact absurd (Option.some_inj.mp (hcallSite.symm.trans hsame)) hne
      | returned hother hcallSiteOther =>
          obtain rfl := hnearest.unique hother
          exact Option.some_inj.mp (hcallSite.symm.trans hcallSiteOther)

/-- There is a block to join if the ancestor has the caller, or the caller of the ancestor has. -/
theorem exists_joins_iff (hnearest : NearestResume blocks position found) :
    (∃ index, Joins blocks position caller index) ↔
      callerAt blocks found = some caller ∨
        (callerAt blocks found).bind (callerAt blocks) = some caller := by
  constructor
  · rintro ⟨index, hjoins⟩
    cases hjoins with
    | inside hother hsame =>
        obtain rfl := hnearest.unique hother
        exact Or.inl hsame
    | returned hother hcallSite _ hsame =>
        obtain rfl := hnearest.unique hother
        exact Or.inr (Option.bind_eq_some_iff.mpr ⟨_, hcallSite, hsame⟩)
  · rintro (hsame | hsame)
    · exact ⟨found, .inside hnearest hsame⟩
    · obtain ⟨callSite, hcallSite, hsame⟩ := Option.bind_eq_some_iff.mp hsame
      by_cases hcaller : callSite = caller
      · exact ⟨found, .inside hnearest (hcaller ▸ hcallSite)⟩
      · exact ⟨callSite, .returned hnearest hcallSite hcaller hsame⟩

/-- Blocks with one caller and one nearest ancestor join the same block. -/
theorem Joins.transfer (hfirst : NearestResume blocks first found)
    (hsecond : NearestResume blocks second found) (hjoins : Joins blocks first caller index) :
    Joins blocks second caller index := by
  cases hjoins with
  | inside hother hsame => exact .inside (hfirst.unique hother ▸ hsecond) hsame
  | returned hother hcallSite hne hsame =>
      exact .returned (hfirst.unique hother ▸ hsecond) hcallSite hne hsame

/-! ## The search for that block -/

/-- The answers that the search for the block to join can give, and when it gives them. -/
inductive Joined (blocks : List Block) (position caller : Nat) :
    Except InlineIssue (Option Nat) → Prop
  /-- The walk has failed. -/
  | lost {issue : InlineIssue} :
      ancestor blocks position = .error issue → Joined blocks position caller (.error issue)
  /-- The chain ends before any resume point. -/
  | ended : ancestor blocks position = .ok none → Joined blocks position caller (.ok none)
  /-- Control comes from the function itself. -/
  | outermost {found : Nat} :
      ancestor blocks position = .ok (some found) → callerAt blocks found = none →
        Joined blocks position caller (.ok none)
  /-- Control comes from the same call. -/
  | inside {found : Nat} :
      ancestor blocks position = .ok (some found) → callerAt blocks found = some caller →
        Joined blocks position caller (.ok (some found))
  /-- Control comes from a call at a position that does not exist. -/
  | missing {found callSite : Nat} :
      ancestor blocks position = .ok (some found) → callerAt blocks found = some callSite →
        callSite ≠ caller → blocks.length ≤ callSite →
        Joined blocks position caller (.error (.outOfRange position callSite))
  /-- Control has returned from a call that was made inside the same call. -/
  | returned {found callSite : Nat} :
      ancestor blocks position = .ok (some found) → callerAt blocks found = some callSite →
        callSite ≠ caller → callerAt blocks callSite = some caller →
        Joined blocks position caller (.ok (some callSite))
  /-- Control comes from some other call. -/
  | apart {found callSite : Nat} :
      ancestor blocks position = .ok (some found) → callerAt blocks found = some callSite →
        callSite ≠ caller → callSite < blocks.length → callerAt blocks callSite ≠ some caller →
        Joined blocks position caller (.ok none)

theorem lt_of_callerAt (hcaller : callerAt blocks position = some caller) :
    position < blocks.length := by
  obtain ⟨block, hblock, -⟩ := Option.bind_eq_some_iff.mp hcaller
  exact (List.getElem?_eq_some_iff.mp hblock).1

/-- The search gives these answers and no others. -/
theorem joined?_iff {answer : Except InlineIssue (Option Nat)} :
    joined? blocks position caller = answer ↔ Joined blocks position caller answer := by
  constructor
  · rintro rfl
    unfold joined?
    cases hwalk : ancestor blocks position with
    | error issue => exact .lost hwalk
    | ok answer =>
      cases answer with
      | none => exact .ended hwalk
      | some found =>
        simp only [bind, Except.bind, pure, Except.pure]
        split
        case h_1 callSite hcallSite =>
          split
          case isTrue hsame => exact .inside hwalk (hsame ▸ hcallSite)
          case isFalse hne =>
            unfold requireBlock
            cases hblock : blocks[callSite]? with
            | none => exact .missing hwalk hcallSite hne (List.getElem?_eq_none_iff.mp hblock)
            | some enclosing =>
              have hcaller : callerAt blocks callSite = enclosing.caller? := by
                rw [callerAt, hblock, Option.bind_some]
              dsimp only
              split
              case isTrue hreturned => exact .returned hwalk hcallSite hne (hcaller.trans hreturned)
              case isFalse hneither =>
                exact .apart hwalk hcallSite hne (List.getElem?_eq_some_iff.mp hblock).1
                  (hcaller ▸ hneither)
        case h_2 hnone => exact .outermost hwalk (Option.eq_none_iff_forall_ne_some.mpr hnone)
  · intro hjoined
    cases hjoined with
    | lost hwalk => rw [joined?, hwalk]; rfl
    | ended hwalk => rw [joined?, hwalk]; rfl
    | outermost hwalk hcallSite =>
        rw [callerAt] at hcallSite
        simp [joined?, hwalk, hcallSite, bind, Except.bind, pure, Except.pure]
    | inside hwalk hcallSite =>
        rw [callerAt] at hcallSite
        simp [joined?, hwalk, hcallSite, bind, Except.bind, pure, Except.pure]
    | missing hwalk hcallSite hne hge =>
        rw [callerAt] at hcallSite
        simp [joined?, hwalk, hcallSite, hne, requireBlock, List.getElem?_eq_none hge, bind,
          Except.bind]
    | returned hwalk hcallSite hne hsame =>
        obtain ⟨block, hblock, hcaller⟩ := Option.bind_eq_some_iff.mp hsame
        rw [callerAt] at hcallSite
        simp [joined?, hwalk, hcallSite, hne, requireBlock, hblock, hcaller, bind, Except.bind,
          pure, Except.pure]
    | apart hwalk hcallSite hne hlt hneither =>
        rw [callerAt] at hcallSite
        rw [callerAt, List.getElem?_eq_getElem hlt, Option.bind_some] at hneither
        simp [joined?, hwalk, hcallSite, hne, requireBlock, hlt, hneither, bind, Except.bind, pure,
          Except.pure]

/-- The search finds the block to join, if there is one. -/
theorem joins_iff {answer : Option Nat} (hjoined : joined? blocks position caller = .ok answer) :
    Joins blocks position caller index ↔ answer = some index := by
  have hfound : ∀ {joined}, Joins blocks position caller joined →
      (Joins blocks position caller index ↔ some joined = some index) :=
    fun hjoins => ⟨fun hother => congrArg some (hjoins.unique hother),
      fun hsame => Option.some_inj.mp hsame ▸ hjoins⟩
  have hnone : ∀ {found}, NearestResume blocks position found →
      ¬ (callerAt blocks found = some caller ∨
        (callerAt blocks found).bind (callerAt blocks) = some caller) →
      (Joins blocks position caller index ↔ none = some index) :=
    fun hnearest hneither => iff_of_false
      (fun hjoins => hneither ((exists_joins_iff hnearest).mp ⟨index, hjoins⟩)) (by simp)
  cases joined?_iff.mp hjoined with
  | ended hwalk =>
      refine iff_of_false ?_ (by simp)
      rintro (⟨hnearest, -⟩ | ⟨hnearest, -⟩) <;> simp [nearestResume_iff hwalk] at hnearest
  | outermost hwalk hcallSite =>
      exact hnone ((nearestResume_iff hwalk).mpr rfl) (by simp [hcallSite])
  | inside hwalk hsame => exact hfound (.inside ((nearestResume_iff hwalk).mpr rfl) hsame)
  | returned hwalk hcallSite hne hsame =>
      exact hfound (.returned ((nearestResume_iff hwalk).mpr rfl) hcallSite hne hsame)
  | apart hwalk hcallSite hne _ hneither =>
      exact hnone ((nearestResume_iff hwalk).mpr rfl) (by simp [hcallSite, hne, hneither])

/-! ## The frame of a block that is needed -/

theorem requireFrame_eq (blocks : List Block) (tree : InlineTree) (position index : Nat) :
    requireFrame blocks tree position index =
      if index < blocks.length then
        match tree.frameOf? index with
        | none => .error (.unassigned position index)
        | some id => .ok id
      else .error (.outOfRange position index) := by
  rcases Nat.lt_or_ge index blocks.length with hlt | hge
  · rw [if_pos hlt, requireFrame, requireBlock, List.getElem?_eq_getElem hlt]
    rfl
  · rw [if_neg (Nat.not_lt.mpr hge), requireFrame, requireBlock, List.getElem?_eq_none hge]
    rfl

end CompileWatch.InlineTree
