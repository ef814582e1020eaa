import CompileWatch.Proofs.InlineTree.Growth
import CompileWatch.Proofs.InlineTree.Rule

/-!
# Later blocks

Predecessors and callers may lie ahead of a block, so it is not clear that the tree of the
first blocks of a compilation says anything of the whole.  It does unless a position is
missing: a block is placed by what it finds at the positions that are looked up for it, and
these exist among the first blocks already.

The argument compares two lists of blocks that look the same to the rebuilding wherever
the first list has a block (`Resembles`), and goes through the functions of the rebuilding
from the inside out.  Each gives the same answer for both lists, as long as it does not
miss a position that the second list has (`Lasting`).
-/

namespace CompileWatch.InlineTree

open Outcome

variable {blocks others : List Block} {scripts : List Script} {tree : InlineTree}
  {α β : Type} {start steps position index caller count : Nat}

/-- At the positions of the first list, the second one has the same callers, first predecessors and
resume points. -/
structure Resembles (blocks others : List Block) : Prop where
  length_le : blocks.length ≤ others.length
  caller : ∀ position < blocks.length, callerAt others position = callerAt blocks position
  predecessor : ∀ position < blocks.length,
    predecessorAt others position = predecessorAt blocks position
  resumes : ∀ position < blocks.length, resumesAt others position = resumesAt blocks position

theorem resembles_append (blocks later : List Block) : Resembles blocks (blocks ++ later) where
  length_le := by simp
  caller := fun position hlt => by rw [callerAt, List.getElem?_append_left hlt, callerAt]
  predecessor := fun position hlt => by
    rw [predecessorAt, List.getElem?_append_left hlt, predecessorAt]
  resumes := fun position hlt => by rw [resumesAt, List.getElem?_append_left hlt, resumesAt]

/-- The answer does not miss a position that the other blocks have. -/
def Lasting (others : List Block) (answer : Except InlineIssue α) : Prop :=
  ∀ position index, answer = .error (.outOfRange position index) → others.length ≤ index

theorem Lasting.first {first : Except InlineIssue α} {next : α → Except InlineIssue β}
    (hlasting : Lasting others (first >>= next)) : Lasting others first :=
  fun position index hmissing => hlasting position index (bind_eq_error.mpr (Or.inl hmissing))

/-- Chains of steps agree if their steps do, and each step needs to agree only as far as its answer
is lasting. -/
theorem Lasting.bind_eq {first firstOther : Except InlineIssue α}
    {next nextOther : α → Except InlineIssue β} (hlasting : Lasting others (first >>= next))
    (hfirst : Lasting others first → firstOther = first)
    (hnext : ∀ a, first = .ok a → Lasting others (next a) → nextOther a = next a) :
    (firstOther >>= nextOther) = first >>= next := by
  rw [hfirst hlasting.first]
  cases hanswer : first with
  | error issue => rfl
  | ok a =>
      rw [hanswer] at hlasting
      exact hnext a hanswer hlasting

/-! ## The walk -/

/-- The chains are the same up to the first position that does not exist. -/
theorem chainAt_of_resembles (hresembles : Resembles blocks others)
    (hexists : ∀ earlier < steps, ∀ position, chainAt blocks start earlier = some position →
      position < blocks.length) :
    chainAt others start steps = chainAt blocks start steps := by
  induction steps with
  | zero => rfl
  | succ steps ih =>
      rw [chainAt, chainAt, ih fun earlier hlt => hexists earlier (Nat.lt_succ_of_lt hlt)]
      cases hcurrent : chainAt blocks start steps with
      | none => rfl
      | some current =>
          exact hresembles.predecessor current
            (hexists steps (Nat.lt_succ_self _) current hcurrent)

theorem WalkEnds.of_resembles {answer : Except InlineIssue (Option Nat)}
    (hends : WalkEnds blocks start answer) (hresembles : Resembles blocks others)
    (hstart : start < blocks.length) (hlasting : Lasting others answer) :
    WalkEnds others start answer := by
  obtain ⟨last, hpos, hstops, hpasses⟩ := hends
  have hexists : ∀ earlier < last, ∀ position, chainAt blocks start earlier = some position →
      position < blocks.length := by
    intro earlier hlt position hposition
    rcases Nat.eq_zero_or_pos earlier with rfl | hearlier
    · exact Option.some_inj.mp hposition ▸ hstart
    · obtain ⟨passed, hpassed, hchain, -⟩ := hpasses earlier hearlier hlt
      exact Option.some_inj.mp (hposition.symm.trans hchain) ▸ hpassed
  have hchain : ∀ earlier ≤ last, chainAt others start earlier = chainAt blocks start earlier :=
    fun earlier hle => chainAt_of_resembles hresembles
      fun before hlt => hexists before (hlt.trans_le hle)
  refine ⟨last, hpos, ?_, ?_⟩
  · have hlast := hchain last (Nat.le_refl _)
    cases hstops with
    | ended hend => exact .ended (hlast.trans hend)
    | missing hindex _ => exact .missing (hlast.trans hindex) (hlasting start _ rfl)
    | returned hindex hlt hearlier hbefore =>
        exact .returned (hlast.trans hindex) (hlt.trans_le hresembles.length_le) hearlier
          ((hchain _ hearlier.le).trans hbefore)
    | resumes hindex hlt hfresh hresumes =>
        exact .resumes (hlast.trans hindex) (hlt.trans_le hresembles.length_le)
          (fun earlier hearlier => hchain earlier hearlier.le ▸ hfresh earlier hearlier)
          ((hresembles.resumes _ hlt).trans hresumes)
  · intro earlier hearlier hlt
    obtain ⟨passed, hpassed, hat, hfresh, hplain⟩ := hpasses earlier hearlier hlt
    exact ⟨passed, hpassed.trans_le hresembles.length_le, (hchain earlier hlt.le).trans hat,
      fun before hbefore => hchain before (hbefore.trans hlt).le ▸ hfresh before hbefore,
      (hresembles.resumes passed hpassed).trans hplain⟩

theorem ancestor_of_resembles (hresembles : Resembles blocks others)
    (hstart : start < blocks.length) (hlasting : Lasting others (ancestor blocks start)) :
    ancestor others start = ancestor blocks start :=
  (ancestor_walkEnds others start).unique
    ((ancestor_walkEnds blocks start).of_resembles hresembles hstart hlasting)

/-! ## The rules -/

theorem lt_of_resumesAt (hresumes : resumesAt blocks index = true) : index < blocks.length := by
  by_contra hge
  simp [resumesAt, List.getElem?_eq_none (Nat.not_lt.mp hge)] at hresumes

theorem joined?_of_resembles (hresembles : Resembles blocks others)
    (hposition : position < blocks.length)
    (hlasting : Lasting others (joined? blocks position caller)) :
    joined? others position caller = joined? blocks position caller := by
  have hwalk := ancestor_of_resembles hresembles hposition hlasting.first
  have hcaller : ∀ {found}, ancestor blocks position = .ok (some found) →
      callerAt others found = callerAt blocks found := by
    intro found hfound
    obtain ⟨steps, -, -, hresumes, -⟩ : NearestResume blocks position found :=
      (nearestResume_iff hfound).mpr rfl
    exact hresembles.caller found (lt_of_resumesAt hresumes)
  rw [joined?_iff]
  have hjoined : Joined blocks position caller (joined? blocks position caller) :=
    joined?_iff.mp rfl
  generalize joined? blocks position caller = answer at hjoined hlasting
  cases hjoined with
  | lost hfound => exact .lost (hwalk.trans hfound)
  | ended hfound => exact .ended (hwalk.trans hfound)
  | outermost hfound hcallSite =>
      exact .outermost (hwalk.trans hfound) ((hcaller hfound).trans hcallSite)
  | inside hfound hsame => exact .inside (hwalk.trans hfound) ((hcaller hfound).trans hsame)
  | missing hfound hcallSite hne _ =>
      exact .missing (hwalk.trans hfound) ((hcaller hfound).trans hcallSite) hne
        (hlasting position _ rfl)
  | returned hfound hcallSite hne hsame =>
      exact .returned (hwalk.trans hfound) ((hcaller hfound).trans hcallSite) hne
        ((hresembles.caller _ (lt_of_callerAt hsame)).trans hsame)
  | apart hfound hcallSite hne hlt hneither =>
      exact .apart (hwalk.trans hfound) ((hcaller hfound).trans hcallSite) hne
        (hlt.trans_le hresembles.length_le) (hresembles.caller _ hlt ▸ hneither)

theorem requireFrame_of_resembles (hresembles : Resembles blocks others)
    (hlasting : Lasting others (requireFrame blocks tree position index)) :
    requireFrame others tree position index = requireFrame blocks tree position index := by
  rw [requireFrame_eq] at hlasting
  rw [requireFrame_eq, requireFrame_eq]
  rcases Nat.lt_or_ge index blocks.length with hlt | hge
  · rw [if_pos hlt, if_pos (hlt.trans_le hresembles.length_le)]
  · rw [if_neg (Nat.not_lt.mpr hge)] at hlasting
    rw [if_neg (Nat.not_lt.mpr hge), if_neg (Nat.not_lt.mpr (hlasting position index rfl))]

/-- A block is placed alike by both lists, unless it misses a position that the second one has. -/
theorem placement_of_resembles (hresembles : Resembles blocks others)
    (hposition : position < blocks.length)
    (hlasting : Lasting others (placement blocks tree position)) :
    placement others tree position = placement blocks tree position := by
  have hcaller : others[position]?.bind Block.caller? = blocks[position]?.bind Block.caller? :=
    hresembles.caller position hposition
  unfold placement at hlasting ⊢
  rw [hcaller]
  cases hnamed : blocks[position]?.bind Block.caller? with
  | none => rfl
  | some caller =>
      rw [hnamed] at hlasting
      refine hlasting.bind_eq (joined?_of_resembles hresembles hposition) ?_
      rintro (_ | index) - hlasting
      · exact hlasting.bind_eq (requireFrame_of_resembles hresembles) fun _ _ _ => rfl
      · exact hlasting.bind_eq (requireFrame_of_resembles hresembles) fun _ _ _ => rfl

/-! ## Trees -/

/-- Placing the first blocks gives the same tree for both lists, if none of them misses a position
that the second list has. -/
theorem partialTree_of_lasting (hresembles : Resembles blocks others)
    (hlasting : ∀ position < blocks.length,
      Lasting others (placement blocks (partialTree blocks scripts position) position))
    (hcount : count ≤ blocks.length) :
    partialTree others scripts count = partialTree blocks scripts count := by
  induction count with
  | zero => rfl
  | succ count ih =>
      rw [partialTree_succ, partialTree_succ, ih (Nat.le_of_succ_le hcount),
        placement_of_resembles hresembles hcount (hlasting count hcount)]

/-- Placing the first blocks gives the same tree whatever comes after them, if none of them misses a
position. -/
theorem partialTree_of_resembles (hresembles : Resembles blocks others)
    (hissues : ∀ issue ∈ (rebuild blocks scripts).issues, ∀ position index,
      issue ≠ .outOfRange position index) (hcount : count ≤ blocks.length) :
    partialTree others scripts count = partialTree blocks scripts count := by
  refine partialTree_of_lasting hresembles ?_ hcount
  intro block hblock position index hmissing
  obtain rfl : position = block := (placement_error hmissing).2
  have hissue : InlineIssue.outOfRange position index ∈ (rebuild blocks scripts).issues :=
    mem_issues_rebuild.mpr ⟨hblock, hmissing⟩
  exact absurd rfl (hissues _ hissue position index)

/-- The issues about the first blocks are those of the tree of the first blocks. -/
theorem filter_issues_partialTree {more : Nat} (hle : count ≤ more) :
    (partialTree blocks scripts more).issues.filter (fun issue => issue.block < count) =
      (partialTree blocks scripts count).issues := by
  induction more, hle using Nat.le_induction with
  | base =>
      rw [List.filter_eq_self]
      intro issue hissue
      simpa using (mem_issues_partialTree.mp hissue).1
  | succ more hmore ih =>
      have hlater : (reported (placement blocks (partialTree blocks scripts more) more)).filter
          (fun issue => issue.block < count) = [] := by
        rw [List.filter_eq_nil_iff]
        intro issue hissue
        have hblock := (placement_error (mem_reported.mp hissue)).2
        simpa [hblock] using hmore
      rw [partialTree_succ, issues_place, List.filter_append, ih, hlater, List.append_nil]

/-- **Later blocks change nothing.**  If no block of a compilation misses a position, then
rebuilding the tree with more blocks after them puts each block in the same frame, opens the same
frames first and finds the same issues with these blocks, in the same order. -/
theorem rebuild_append (later : List Block)
    (hissues : ∀ issue ∈ (rebuild blocks scripts).issues, ∀ position index,
      issue ≠ .outOfRange position index) :
    (∀ position < blocks.length,
      (rebuild (blocks ++ later) scripts).frameOf? position =
        (rebuild blocks scripts).frameOf? position) ∧
    (rebuild blocks scripts).frames <+: (rebuild (blocks ++ later) scripts).frames ∧
    (rebuild (blocks ++ later) scripts).issues.filter (fun issue => issue.block < blocks.length) =
      (rebuild blocks scripts).issues := by
  have hfirst : partialTree (blocks ++ later) scripts blocks.length = rebuild blocks scripts :=
    partialTree_of_resembles (resembles_append blocks later) hissues (Nat.le_refl _)
  have hle : blocks.length ≤ (blocks ++ later).length := by simp
  have hextends : (rebuild blocks scripts).Extends (rebuild (blocks ++ later) scripts) :=
    hfirst ▸ partialTree_extends hle
  refine ⟨?_, hextends.frames, ?_⟩
  · intro position hposition
    obtain ⟨id, hid⟩ := (rebuild_discovered blocks scripts).exists_frameOf? hposition
    rw [hid, hextends.frameOf? hid]
  · rw [← hfirst]
    exact filter_issues_partialTree hle

/-- Block 1 comes from block 2, which is inlined at the same call site but is placed after it. -/
def sampleForward : List Block :=
  [sampleBlock 0 none [], sampleBlock 1 (some 0) [2], sampleBlock 2 (some 0) [0]]

/-- One more block, which misses its caller. -/
def sampleLater : List Block := [sampleBlock 3 (some 9) [2]]

theorem sampleForward_append :
    (rebuild sampleForward []).issues = [.unassigned 1 2] ∧
      (∀ position < 3, (rebuild (sampleForward ++ sampleLater) []).frameOf? position =
        (rebuild sampleForward []).frameOf? position) ∧
      (rebuild sampleForward []).frames <+: (rebuild (sampleForward ++ sampleLater) []).frames ∧
      (rebuild (sampleForward ++ sampleLater) []).issues.filter (fun issue => issue.block < 3) =
        [.unassigned 1 2] := by
  have hissues : (rebuild sampleForward []).issues = [.unassigned 1 2] := by decide +kernel
  have hnone : ∀ issue ∈ (rebuild sampleForward []).issues, ∀ position index,
      issue ≠ .outOfRange position index := by simp [hissues]
  obtain ⟨hsame, hframes, hfilter⟩ := rebuild_append sampleLater hnone
  exact ⟨hissues, hsame, hframes, hfilter.trans hissues⟩

end CompileWatch.InlineTree
