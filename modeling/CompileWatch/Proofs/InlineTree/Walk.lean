import CompileWatch.InlineTree.Rebuild
import Mathlib.Data.Nat.Init
import Mathlib.Tactic.Push

/-!
# The walk along first predecessors

The chain of first predecessors of a block is a sequence of positions: `chainAt` gives
the one that is reached in a number of steps.  The walk goes down this sequence and
passes by every block that it meets for the first time and that has no resume point.
It stops at the first step at which that is not so, for one of four reasons, and the
reason is its answer (`StopsAt`).

`ancestor_walkEnds` says that the walk of the rebuilding is this one.  All else that is
said of it elsewhere follows from that: there is one answer only, and the block that is
found is the nearest with a resume point on the chain.
-/

namespace CompileWatch.InlineTree

variable {blocks : List Block} {start steps current previous found : Nat}
  {unvisited : List Nat} {answer other : Except InlineIssue (Option Nat)}

/-- The caller of the block at a position, if there is such a block and it has one. -/
def callerAt (blocks : List Block) (position : Nat) : Option Nat :=
  blocks[position]?.bind Block.caller?

/-- The first predecessor of the block at a position, if there is such a block and it has one. -/
def predecessorAt (blocks : List Block) (position : Nat) : Option Nat :=
  blocks[position]?.bind Block.firstPredecessor?

/-- Whether the block at a position has a resume point. -/
def resumesAt (blocks : List Block) (position : Nat) : Bool :=
  (blocks[position]?.bind Block.resumePoint).isSome

/-- The position that is reached from `start` in some steps to first predecessors. -/
def chainAt (blocks : List Block) (start : Nat) : Nat → Option Nat
  | 0 => some start
  | steps + 1 => (chainAt blocks start steps).bind (predecessorAt blocks)

/-- The nearest block with a resume point on the chain of first predecessors of `start`. -/
def NearestResume (blocks : List Block) (start found : Nat) : Prop :=
  ∃ steps, 0 < steps ∧ chainAt blocks start steps = some found ∧ resumesAt blocks found = true ∧
    ∀ earlier position, 0 < earlier → earlier < steps →
      chainAt blocks start earlier = some position → resumesAt blocks position = false

/-- The walk passes by the block that it reaches in some steps: that block exists, was not met
before and has no resume point. -/
def Passes (blocks : List Block) (start steps : Nat) : Prop :=
  ∃ position < blocks.length, chainAt blocks start steps = some position ∧
    (∀ earlier < steps, chainAt blocks start earlier ≠ some position) ∧
    resumesAt blocks position = false

/-- Why a walk stops after some steps, and the answer it then gives. -/
inductive StopsAt (blocks : List Block) (start steps : Nat) :
    Except InlineIssue (Option Nat) → Prop
  /-- The block before has no predecessor. -/
  | ended : chainAt blocks start steps = none → StopsAt blocks start steps (.ok none)
  /-- The predecessor does not exist. -/
  | missing {index : Nat} :
      chainAt blocks start steps = some index → blocks.length ≤ index →
        StopsAt blocks start steps (.error (.outOfRange start index))
  /-- The predecessor was met before. -/
  | returned {index earlier : Nat} :
      chainAt blocks start steps = some index → index < blocks.length → earlier < steps →
        chainAt blocks start earlier = some index →
        StopsAt blocks start steps (.error (.cycle start index))
  /-- The predecessor has a resume point. -/
  | resumes {index : Nat} :
      chainAt blocks start steps = some index → index < blocks.length →
        (∀ earlier < steps, chainAt blocks start earlier ≠ some index) →
        resumesAt blocks index = true → StopsAt blocks start steps (.ok (some index))

/-- The walk from `start` passes by some blocks, and then stops with the given answer. -/
def WalkEnds (blocks : List Block) (start : Nat) (answer : Except InlineIssue (Option Nat)) :
    Prop :=
  ∃ steps, 0 < steps ∧ StopsAt blocks start steps answer ∧
    ∀ earlier, 0 < earlier → earlier < steps → Passes blocks start earlier

/-! ## There is one answer -/

theorem Passes.not_stopsAt (hpasses : Passes blocks start steps) :
    ¬ StopsAt blocks start steps answer := by
  obtain ⟨position, hlt, hposition, hfresh, hplain⟩ := hpasses
  intro hstops
  cases hstops with
  | ended hend => simp [hposition] at hend
  | missing hindex hge =>
      obtain rfl : position = _ := Option.some_inj.mp (hposition.symm.trans hindex)
      exact absurd hlt (Nat.not_lt.mpr hge)
  | returned hindex _ hearlier hbefore =>
      exact hfresh _ hearlier (hbefore.trans (hindex.symm.trans hposition))
  | resumes hindex _ _ hresumes =>
      obtain rfl : position = _ := Option.some_inj.mp (hposition.symm.trans hindex)
      simp [hplain] at hresumes

theorem StopsAt.unique (hstops : StopsAt blocks start steps answer)
    (hother : StopsAt blocks start steps other) : answer = other := by
  cases hstops with
  | ended hend => cases hother <;> simp_all
  | missing hindex hge =>
      cases hother <;> simp_all
      all_goals omega
  | returned hindex hlt hearlier hbefore =>
      cases hother <;> simp_all
      omega
  | resumes hindex hlt hfresh hresumes =>
      cases hother <;> simp_all
      omega

theorem WalkEnds.unique (hends : WalkEnds blocks start answer)
    (hother : WalkEnds blocks start other) : answer = other := by
  obtain ⟨first, hfirst, hstops, hpasses⟩ := hends
  obtain ⟨second, hsecond, hstopsOther, hpassesOther⟩ := hother
  rcases Nat.lt_trichotomy first second with hlt | rfl | hlt
  · exact absurd hstops (hpassesOther first hfirst hlt).not_stopsAt
  · exact hstops.unique hstopsOther
  · exact absurd hstopsOther (hpasses second hsecond hlt).not_stopsAt

theorem WalkEnds.block_eq {issue : InlineIssue} (hends : WalkEnds blocks start (.error issue)) :
    issue.block = start := by
  obtain ⟨steps, -, hstops, -⟩ := hends
  cases hstops <;> rfl

/-! ## The walk of the rebuilding -/

/-- What is known of a walk from `start` that has come to `current` in some steps. -/
structure Walked (blocks : List Block) (start steps current : Nat) (unvisited : List Nat) :
    Prop where
  reached : chainAt blocks start steps = some current
  passes : ∀ earlier, 0 < earlier → earlier ≤ steps → Passes blocks start earlier
  nodup : unvisited.Nodup
  mem_unvisited : ∀ position, position ∈ unvisited ↔
    position < blocks.length ∧ ∀ earlier ≤ steps, chainAt blocks start earlier ≠ some position

theorem walked_start (blocks : List Block) (start : Nat) :
    Walked blocks start 0 start ((List.range blocks.length).erase start) where
  reached := rfl
  passes := by omega
  nodup := List.nodup_range.erase start
  mem_unvisited := by
    intro position
    rw [List.nodup_range.mem_erase_iff, List.mem_range]
    simp [chainAt, eq_comm, and_comm]

namespace Walked

variable (hwalked : Walked blocks start steps current unvisited)
include hwalked

theorem chainAt_succ : chainAt blocks start (steps + 1) = predecessorAt blocks current := by
  rw [chainAt, hwalked.reached, Option.bind_some]

theorem passes_of_lt {earlier : Nat} (hpos : 0 < earlier) (hlt : earlier < steps + 1) :
    Passes blocks start earlier :=
  hwalked.passes earlier hpos (Nat.le_of_lt_succ hlt)

theorem fresh (hunvisited : previous ∈ unvisited) :
    ∀ earlier < steps + 1, chainAt blocks start earlier ≠ some previous :=
  fun earlier hlt =>
    ((hwalked.mem_unvisited previous).mp hunvisited).2 earlier (Nat.le_of_lt_succ hlt)

/-- The walk goes on to a block that it has not met and that has no resume point. -/
theorem next (hprevious : predecessorAt blocks current = some previous)
    (hunvisited : previous ∈ unvisited) (hplain : resumesAt blocks previous = false) :
    Walked blocks start (steps + 1) previous (unvisited.erase previous) where
  reached := hwalked.chainAt_succ.trans hprevious
  passes := by
    intro earlier hpos hle
    rcases Nat.lt_or_eq_of_le hle with hlt | rfl
    · exact hwalked.passes_of_lt hpos hlt
    · exact ⟨previous, ((hwalked.mem_unvisited previous).mp hunvisited).1,
        hwalked.chainAt_succ.trans hprevious, hwalked.fresh hunvisited, hplain⟩
  nodup := hwalked.nodup.erase previous
  mem_unvisited := by
    intro position
    have hlast : chainAt blocks start (steps + 1) = some previous :=
      hwalked.chainAt_succ.trans hprevious
    rw [hwalked.nodup.mem_erase_iff, hwalked.mem_unvisited]
    constructor
    · rintro ⟨hne, hlt, hbefore⟩
      refine ⟨hlt, fun earlier hle => ?_⟩
      rcases Nat.lt_or_eq_of_le hle with hearlier | rfl
      · exact hbefore earlier (Nat.le_of_lt_succ hearlier)
      · rw [hlast]
        exact fun hsame => hne (Option.some_inj.mp hsame).symm
    · rintro ⟨hlt, hbefore⟩
      refine ⟨?_, hlt, fun earlier hle => hbefore earlier (Nat.le_succ_of_le hle)⟩
      rintro rfl
      exact hbefore (steps + 1) (Nat.le_refl _) hlast

/-- A predecessor that was met before ends the walk. -/
theorem stopsAt_of_visited (hprevious : predecessorAt blocks current = some previous)
    (hlt : previous < blocks.length) (hvisited : previous ∉ unvisited) :
    StopsAt blocks start (steps + 1) (.error (.cycle start previous)) := by
  rw [hwalked.mem_unvisited] at hvisited
  push Not at hvisited
  obtain ⟨earlier, hle, hbefore⟩ := hvisited hlt
  exact .returned (hwalked.chainAt_succ.trans hprevious) hlt (Nat.lt_succ_of_le hle) hbefore

end Walked

theorem resumesAt_of_getElem? {block : Block} (hblock : blocks[current]? = some block) :
    resumesAt blocks current = block.resumePoint.isSome := by
  rw [resumesAt, hblock, Option.bind_some]

theorem ancestorFrom_walkEnds (hwalked : Walked blocks start steps current unvisited) :
    WalkEnds blocks start (ancestorFrom blocks start unvisited current) := by
  -- where the walk stops it does so at the next step, and the steps before were passed by
  have hstop : ∀ {answer}, StopsAt blocks start (steps + 1) answer → WalkEnds blocks start answer :=
    fun hstops => ⟨steps + 1, Nat.succ_pos _, hstops, fun _ => hwalked.passes_of_lt⟩
  fun_induction ancestorFrom blocks start unvisited current generalizing steps with
  | case1 unvisited current hnone => exact hstop (.ended (hwalked.chainAt_succ.trans hnone))
  | case2 unvisited current previous hprevious hmissing =>
      exact hstop (.missing (hwalked.chainAt_succ.trans hprevious)
        (List.getElem?_eq_none_iff.mp hmissing))
  | case3 unvisited current previous hprevious block hblock hunvisited hresumes =>
      refine hstop
        (.resumes (hwalked.chainAt_succ.trans hprevious) ?_ (hwalked.fresh hunvisited) ?_)
      · exact (List.getElem?_eq_some_iff.mp hblock).1
      · rw [resumesAt_of_getElem? hblock, hresumes]
  | case4 unvisited current previous hprevious block hblock hunvisited hplain _ ih =>
      have hnext := hwalked.next hprevious hunvisited
        (by rw [resumesAt_of_getElem? hblock]; simpa using hplain)
      exact ih hnext fun hstops => ⟨_, Nat.succ_pos _, hstops, fun _ => hnext.passes_of_lt⟩
  | case5 unvisited current previous hprevious block hblock hvisited =>
      exact hstop (hwalked.stopsAt_of_visited hprevious
        (List.getElem?_eq_some_iff.mp hblock).1 hvisited)

/-- The walk of the rebuilding goes down the chain and stops where it has to. -/
theorem ancestor_walkEnds (blocks : List Block) (start : Nat) :
    WalkEnds blocks start (ancestor blocks start) :=
  ancestorFrom_walkEnds (walked_start blocks start)

/-- A block with a resume point, for samples. -/
def sampleBlock (number : UInt32) (caller : Option UInt32) (predecessors : List UInt32) : Block :=
  { number, resumePoint := some { mode := .at, caller }, predecessors }

/-- A loop without a resume point is met at its second round. -/
example : ancestor [sampleBlock 0 none [], { number := 1, predecessors := [2] },
    { number := 2, predecessors := [1] }, sampleBlock 3 (some 0) [1]] 3 = .error (.cycle 3 1) := by
  cbv

/-! ## What the walk finds -/

theorem chainAt_eq_none_of_le {more : Nat} (hend : chainAt blocks start steps = none)
    (hle : steps ≤ more) : chainAt blocks start more = none := by
  induction more, hle using Nat.le_induction with
  | base => exact hend
  | succ more _ ih => rw [chainAt, ih, Option.bind_none]

theorem nearestResume_of_predecessorAt (hfound : predecessorAt blocks start = some found)
    (hresumes : resumesAt blocks found = true) : NearestResume blocks start found :=
  ⟨1, Nat.one_pos, hfound, hresumes, by omega⟩

theorem NearestResume.unique {first second : Nat} (hfirst : NearestResume blocks start first)
    (hsecond : NearestResume blocks start second) : first = second := by
  obtain ⟨steps, hpos, hreached, hresumes, hplain⟩ := hfirst
  obtain ⟨others, hothers, hreachedOther, hresumesOther, hplainOther⟩ := hsecond
  rcases Nat.lt_trichotomy steps others with hlt | rfl | hlt
  · simp [hplainOther steps first hpos hlt hreached] at hresumes
  · exact Option.some_inj.mp (hreached.symm.trans hreachedOther)
  · simp [hplain others second hothers hlt hreachedOther] at hresumesOther

/-- A walk without an issue answers with the nearest block with a resume point, if the chain has
one. -/
theorem WalkEnds.nearestResume_iff {answer : Option Nat}
    (hends : WalkEnds blocks start (.ok answer)) :
    NearestResume blocks start found ↔ answer = some found := by
  obtain ⟨steps, hpos, hstops, hpasses⟩ := hends
  have hplain : ∀ earlier position, 0 < earlier → earlier < steps →
      chainAt blocks start earlier = some position → resumesAt blocks position = false := by
    intro earlier position hearlier hlt hposition
    obtain ⟨passed, -, hpassed, -, hresumes⟩ := hpasses earlier hearlier hlt
    obtain rfl : passed = position := Option.some_inj.mp (hpassed.symm.trans hposition)
    exact hresumes
  cases hstops with
  | ended hend =>
      refine ⟨?_, by simp⟩
      rintro ⟨others, hothers, hreached, hresumes, -⟩
      rcases Nat.lt_or_ge others steps with hlt | hge
      · simp [hplain others found hothers hlt hreached] at hresumes
      · simp [chainAt_eq_none_of_le hend hge] at hreached
  | resumes hindex _ _ hresumes =>
      have hnearest : NearestResume blocks start _ := ⟨steps, hpos, hindex, hresumes, hplain⟩
      constructor
      · exact fun hfound => congrArg some (NearestResume.unique hnearest hfound)
      · exact fun hsame => Option.some_inj.mp hsame ▸ hnearest

theorem nearestResume_iff {answer : Option Nat} (hwalk : ancestor blocks start = .ok answer) :
    NearestResume blocks start found ↔ answer = some found :=
  (hwalk ▸ ancestor_walkEnds blocks start).nearestResume_iff

end CompileWatch.InlineTree
