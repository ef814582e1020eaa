import Mathlib.Data.List.Basic

/-!
# Replacing a character

`String.replace` puts a text in the place of a character.  It searches the text for the
character, and the search answers with pieces: those that match, which are replaced, and
those that do not, which are kept.  Characters of the kept pieces differ from the one that is
searched for, so each occurrence is replaced and nothing else is changed
(`toList_replace_char`).
-/

namespace CompileWatch.Text
open String String.Slice.Pattern String.Slice.Pattern.Model

variable {text : String.Slice} {c : Char} {replacement before after written : String}
  {start stop : text.Pos} {steps : List (SearchStep text)}

/-- What is written for a character when `c` is replaced. -/
def substitute (c : Char) (replacement : String) (d : Char) : List Char :=
  if d = c then replacement.toList else [d]

theorem flatMap_substitute_of_notMem {text : List Char} (htext : c ∉ text) :
    text.flatMap (substitute c replacement) = text := by
  have hsame : text.flatMap (substitute c replacement) = text.flatMap fun d => [d] := by
    refine List.flatMap_congr fun d hd => ?_
    exact if_neg (ne_of_mem_of_not_mem hd htext)
  rw [hsame, List.flatMap_singleton']

/-- A character does not occur between two positions if it is at none of them. -/
theorem notMem_of_not_matchesAt (hstart : start.Splits before (written ++ after))
    (hstop : stop.Splits (before ++ written) after)
    (hnone : ∀ position, start ≤ position → position < stop → ¬ MatchesAt c position) :
    c ∉ written.toList := by
  intro hc
  obtain ⟨front, back, hwritten⟩ := List.append_of_mem hc
  have hwritten : written = String.ofList front ++ (String.singleton c ++ String.ofList back) := by
    rw [← String.toList_inj]
    simp [hwritten]
  have htext : text.copy = (before ++ String.ofList front) ++
      (String.singleton c ++ (String.ofList back ++ after)) := by
    rw [hstart.eq_append, hwritten]
    simp only [String.append_assoc]
  have hposition := Slice.Pos.splits_ofEqAppend htext
  refine hnone _ ?_ ?_ (Char.matchesAt_iff_splits.mpr ⟨_, _, hposition⟩)
  · refine (hstart.le_iff_exists_eq_append hposition).mpr ⟨String.ofList front, rfl, ?_⟩
    rw [hwritten]
    simp only [String.append_assoc]
  · refine (hposition.lt_iff_exists_eq_append hstop).mpr
      ⟨String.singleton c ++ String.ofList back, ?_, ?_, ?_⟩
    · simp [← String.toList_inj]
    · rw [hwritten]
      simp only [String.append_assoc]
    · simp only [String.append_assoc]

/-- One step of a search: what was matched is replaced, and what was not is kept. -/
def addStep (replacement sofar : String) : SearchStep text → String
  | .matched .. => sofar ++ ToSlice.toSlice replacement
  | .rejected start stop => sofar ++ text.slice! start stop

theorem toList_foldl_addStep (hsteps : IsValidSearchFrom c start steps)
    (hsplits : start.Splits before after) (sofar : String) :
    (steps.foldl (addStep replacement) sofar).toList =
      sofar.toList ++ after.toList.flatMap (substitute c replacement) := by
  induction hsteps generalizing before after sofar with
  | endPos =>
      obtain rfl := hsplits.eq_endPos_iff.mp rfl
      simp
  | @matched rest start stop hmatch _ ih =>
      obtain ⟨hend, rfl, rfl⟩ := Char.isLongestMatchAt_iff.mp hmatch
      obtain ⟨behind, rfl⟩ := hsplits.exists_eq_singleton_append hend
      rw [List.foldl_cons, ih hsplits.next]
      have hreplacement : (ToSlice.toSlice replacement).copy = replacement := String.copy_toSlice
      simp [addStep, substitute, hreplacement]
  | @mismatched rest start stop hlt hnone _ ih =>
      obtain ⟨written, -, hbefore, rfl⟩ := (hsplits.lt_iff_exists_eq_append stop.splits).mp hlt
      have hstop : stop.Splits (before ++ written) (text.sliceFrom stop).copy :=
        stop.splits.of_eq hbefore rfl
      obtain ⟨hle, hslice⟩ := Slice.copy_slice_eq_iff_splits.mpr ⟨_, _, hsplits, hstop⟩
      have hnotMem : c ∉ written.toList := notMem_of_not_matchesAt hsplits hstop hnone
      have hadd : (addStep replacement sofar (.rejected start stop)).toList =
          sofar.toList ++ written.toList := by
        rw [addStep, ← Slice.slice_eq_slice!, ← hslice, ← String.toList_append]
        rfl
      rw [List.foldl_cons, ih hstop, hadd, String.toList_append, List.flatMap_append,
        flatMap_substitute_of_notMem hnotMem, List.append_assoc]

/-- **Replacing a character changes each of its occurrences and nothing else.** -/
theorem toList_replace_char (text : String) (c : Char) (replacement : String) :
    (text.replace c replacement).toList = text.toList.flatMap (substitute c replacement) := by
  have hsteps : IsValidSearchFrom c text.toSlice.startPos
      (ToForwardSearcher.toSearcher c text.toSlice).toList :=
    LawfulToForwardSearcherModel.isValidSearchFrom_toList text.toSlice
  have hreplace : text.replace c replacement =
      (ToForwardSearcher.toSearcher c text.toSlice).toList.foldl (addStep replacement) "" := by
    rw [Std.Iter.foldl_toList]
    unfold String.replace Slice.replace
    congr 1
    funext sofar step
    cases step <;> rfl
  have hsplits := text.toSlice.splits_startPos
  rw [hreplace, toList_foldl_addStep hsteps hsplits]
  simp

end CompileWatch.Text
