import CompileWatch.Proofs.InlineTree.Walk
import Mathlib.Data.Fintype.Card

/-!
# Rounds of the walk

In each round the walk along first predecessors follows one of them.  `ancestorWithin` is the
walk that is cut off after some rounds, so the rounds that it takes are those without which
it has no answer.

The positions before the one at which the walk stops are positions of blocks, and they
differ: the walk goes on only to blocks that it has not met.  So there are no more of them
than blocks, and the walk takes no more rounds than that, also where the chain never ends.
-/

namespace CompileWatch.InlineTree

variable {blocks : List Block} {start steps total current previous : Nat} {unvisited : List Nat}
  {answer : Except InlineIssue (Option Nat)}

/-- The walk of `ancestorFrom`, with no answer if it has not stopped after some rounds. -/
def ancestorWithin (blocks : List Block) (start : Nat) :
    Nat → List Nat → Nat → Option (Except InlineIssue (Option Nat))
  | 0, _, _ => none
  | rounds + 1, unvisited, current =>
    match blocks[current]?.bind Block.firstPredecessor? with
    | none => some (.ok none)
    | some previous =>
      match blocks[previous]? with
      | none => some (.error (.outOfRange start previous))
      | some block =>
        if previous ∈ unvisited then
          if block.resumePoint.isSome then some (.ok (some previous))
          else ancestorWithin blocks start rounds (unvisited.erase previous) previous
        else some (.error (.cycle start previous))

/-! ## The steps of a walk -/

/-- Before the step at which a walk stops it has met blocks, each of them once. -/
theorem exists_position_of_passes (hstart : start < blocks.length)
    (hpasses : ∀ earlier, 0 < earlier → earlier < total → Passes blocks start earlier)
    {earlier : Nat} (hlt : earlier < total) :
    ∃ position < blocks.length, chainAt blocks start earlier = some position ∧
      ∀ before < earlier, chainAt blocks start before ≠ some position := by
  rcases Nat.eq_zero_or_pos earlier with rfl | hpos
  · exact ⟨start, hstart, rfl, by omega⟩
  · obtain ⟨position, hposition, hreached, hfresh, -⟩ := hpasses earlier hpos hlt
    exact ⟨position, hposition, hreached, hfresh⟩

/-- The blocks that a walk meets are not more than there are. -/
theorem le_length_of_passes (hstart : start < blocks.length)
    (hpasses : ∀ earlier, 0 < earlier → earlier < total → Passes blocks start earlier) :
    total ≤ blocks.length := by
  choose position hposition hreached hfresh using
    fun step : Fin total => exists_position_of_passes hstart hpasses step.isLt
  have hinjective : Function.Injective
      fun step : Fin total => (⟨position step, hposition step⟩ : Fin blocks.length) := by
    intro first second hsame
    have hsame : position first = position second := Fin.mk.inj hsame
    rcases Nat.lt_trichotomy first second with hlt | heq | hlt
    · exact absurd (hsame ▸ hreached first) (hfresh second first hlt)
    · exact Fin.ext heq
    · exact absurd (hsame ▸ hreached second) (hfresh first second hlt)
  simpa using Fintype.card_le_of_injective _ hinjective

/-! ## The rounds of a walk -/

namespace Walked

variable (hwalked : Walked blocks start steps current unvisited)
include hwalked

/-- A walk that has to stop at the next step has its answer in one round. -/
theorem ancestorWithin_of_stopsAt (hstops : StopsAt blocks start (steps + 1) answer)
    (rounds : Nat) : ancestorWithin blocks start (rounds + 1) unvisited current = some answer := by
  have hnext := hwalked.chainAt_succ
  rw [predecessorAt] at hnext
  unfold ancestorWithin
  rw [← hnext]
  cases hstops with
  | ended hend => rw [hend]
  | missing hindex hge =>
      rw [hindex]
      dsimp only
      rw [List.getElem?_eq_none hge]
  | @returned index earlier hindex hlt hearlier hbefore =>
      have hvisited : index ∉ unvisited := by
        intro hunvisited
        exact hwalked.fresh hunvisited earlier hearlier hbefore
      rw [hindex]
      dsimp only
      rw [List.getElem?_eq_getElem hlt]
      exact if_neg hvisited
  | @resumes index hindex hlt hfresh hresumes =>
      have hunvisited : index ∈ unvisited :=
        (hwalked.mem_unvisited index).mpr
          ⟨hlt, fun earlier hle => hfresh earlier (Nat.lt_succ_of_le hle)⟩
      rw [resumesAt_of_getElem? (List.getElem?_eq_getElem hlt)] at hresumes
      rw [hindex]
      dsimp only
      rw [List.getElem?_eq_getElem hlt]
      dsimp only
      rw [if_pos hunvisited, if_pos hresumes]

/-- A walk that passes by the next block goes on there. -/
theorem ancestorWithin_of_passes (hpasses : Passes blocks start (steps + 1)) :
    ∃ previous, Walked blocks start (steps + 1) previous (unvisited.erase previous) ∧
      ∀ rounds, ancestorWithin blocks start (rounds + 1) unvisited current =
        ancestorWithin blocks start rounds (unvisited.erase previous) previous := by
  obtain ⟨previous, hlt, hreached, hfresh, hplain⟩ := hpasses
  have hprevious : predecessorAt blocks current = some previous :=
    hwalked.chainAt_succ.symm.trans hreached
  have hunvisited : previous ∈ unvisited :=
    (hwalked.mem_unvisited previous).mpr
      ⟨hlt, fun earlier hle => hfresh earlier (Nat.lt_succ_of_le hle)⟩
  refine ⟨previous, hwalked.next hprevious hunvisited hplain, fun rounds => ?_⟩
  rw [predecessorAt] at hprevious
  rw [resumesAt_of_getElem? (List.getElem?_eq_getElem hlt)] at hplain
  rw [ancestorWithin, hprevious]
  dsimp only
  rw [List.getElem?_eq_getElem hlt]
  dsimp only
  rw [if_pos hunvisited, if_neg (by simp [hplain])]

omit hwalked in
/-- A walk that stops after `total` steps has no answer before, and has one from then on. -/
theorem ancestorWithin_eq (hwalked : Walked blocks start steps current unvisited)
    (hlt : steps < total) (hstops : StopsAt blocks start total answer)
    (hpasses : ∀ earlier, 0 < earlier → earlier < total → Passes blocks start earlier)
    (rounds : Nat) :
    ancestorWithin blocks start rounds unvisited current =
      if total ≤ steps + rounds then some answer else none := by
  induction rounds generalizing steps current unvisited with
  | zero => rw [ancestorWithin, if_neg (by omega)]
  | succ rounds ih =>
      rcases Nat.lt_or_eq_of_le (Nat.succ_le_of_lt hlt) with hnext | rfl
      · obtain ⟨previous, hwalkedNext, hround⟩ :=
          hwalked.ancestorWithin_of_passes (hpasses (steps + 1) (Nat.succ_pos _) hnext)
        rw [hround, ih hwalkedNext hnext, Nat.add_right_comm, Nat.add_assoc]
      · rw [hwalked.ancestorWithin_of_stopsAt hstops, if_pos (by omega)]

end Walked

/-- **The walk stops in the first round in which it has to, and gives the answer for it.**  From the
position of a block there is a number of steps, not more than there are blocks, after which the
walk stops.  At the steps before it passes by a block, and there is no reason to stop.  The answer
is the one that the last step calls for, and no other; it is there after as many rounds, and not
before.  The walk never goes on behind a block with a resume point, so that a chain which comes back
only there is not reported. -/
theorem ancestor_stops_first (hstart : start < blocks.length) :
    ∃ steps, 0 < steps ∧ steps ≤ blocks.length ∧
      (∀ earlier, 0 < earlier → earlier < steps →
        Passes blocks start earlier ∧ ∀ answer, ¬ StopsAt blocks start earlier answer) ∧
      (∀ answer, ancestor blocks start = answer ↔ StopsAt blocks start steps answer) ∧
      (∀ rounds,
        ancestorWithin blocks start rounds ((List.range blocks.length).erase start) start =
          if steps ≤ rounds then some (ancestor blocks start) else none) ∧
      (∀ resume found, 0 < resume → chainAt blocks start resume = some found →
        resumesAt blocks found = true → steps ≤ resume) := by
  obtain ⟨steps, hpos, hstops, hpasses⟩ := ancestor_walkEnds blocks start
  refine ⟨steps, hpos, le_length_of_passes hstart hpasses, ?_, ?_, ?_, ?_⟩
  · intro earlier hearlier hlt
    have hpass := hpasses earlier hearlier hlt
    exact ⟨hpass, fun answer => hpass.not_stopsAt⟩
  · intro answer
    constructor
    · rintro rfl
      exact hstops
    · exact hstops.unique
  · intro rounds
    rw [(walked_start blocks start).ancestorWithin_eq hpos hstops hpasses, Nat.zero_add]
  · intro resume found hresume hfound hresumes
    by_contra hlt
    obtain ⟨position, -, hposition, -, hplain⟩ := hpasses resume hresume (Nat.not_le.mp hlt)
    obtain rfl : position = found := Option.some_inj.mp (hposition.symm.trans hfound)
    simp [hplain] at hresumes

/-- Two blocks that are each other's predecessor.  The first one has a resume point. -/
def sampleRing : List Block := [sampleBlock 0 (some 1) [1], { number := 1, predecessors := [0] }]

/-- The chain comes back to the block that it began at, whose resume point does not count. -/
theorem sampleRing_stops :
    0 < sampleRing.length ∧ resumesAt sampleRing 0 = true ∧
      ∃ steps, steps ≤ sampleRing.length ∧
        StopsAt sampleRing 0 steps (.error (.cycle 0 0)) ∧
        ∀ rounds, ancestorWithin sampleRing 0 rounds [1] 0 =
          if steps ≤ rounds then some (.error (.cycle 0 0)) else none := by
  have hanswer : ancestor sampleRing 0 = .error (.cycle 0 0) := by cbv
  have hstart : 0 < sampleRing.length := by decide
  obtain ⟨steps, -, hle, -, hstops, hrounds, -⟩ := ancestor_stops_first hstart
  refine ⟨hstart, by decide, steps, hle, (hstops _).mp hanswer, fun rounds => ?_⟩
  rw [← hanswer, ← hrounds]
  rfl

end CompileWatch.InlineTree
