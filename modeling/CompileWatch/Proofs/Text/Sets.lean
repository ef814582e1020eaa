import CompileWatch.Proofs.Text.Assoc
import Mathlib.Data.List.Induction
import Mathlib.Data.List.Sort

/-!
# Sequences of sets

Which list results from setting pairs one after another is said by two things of the
sequence: the last set of a key gives its value (`LastSet`), and the first one its place
(`firstSet`).  A list that agrees with both (`Reflects`) is the only one that does.

Setting one more pair keeps the agreement with the sequence that has one more set
(`Reflects.set`): a key that is there keeps its place, since its first set is the same, and
a new one goes behind all others, which were set before.
-/

namespace CompileWatch.Assoc

variable {Key Value : Type} [DecidableEq Key] {sets : List (Key × Value)}
  {pairs others : Assoc Key Value} {key name : Key} {value given : Value}

/-- The last set of `key` gives it `value`. -/
def LastSet (sets : List (Key × Value)) (key : Key) (value : Value) : Prop :=
  ∃ before after, sets = before ++ (key, value) :: after ∧ key ∉ after.map Prod.fst

/-- The place in the sequence at which `key` is set for the first time. -/
def firstSet (sets : List (Key × Value)) (key : Key) : Nat :=
  (sets.map Prod.fst).idxOf key

/-- The pairs are those of the last sets, in the order of the first sets of their keys. -/
structure Reflects (sets : List (Key × Value)) (pairs : Assoc Key Value) : Prop where
  ordered : (pairs.map Prod.fst).Pairwise fun first second =>
    firstSet sets first < firstSet sets second
  mem_iff : ∀ key value, (key, value) ∈ pairs ↔ LastSet sets key value

/-! ## First and last sets -/

omit [DecidableEq Key] in
theorem LastSet.mem (hlast : LastSet sets key value) : (key, value) ∈ sets := by
  obtain ⟨before, after, rfl, -⟩ := hlast
  exact List.mem_append_right before List.mem_cons_self

/-- One more set is the last one of its own key, and changes nothing for others. -/
theorem lastSet_concat :
    LastSet (sets ++ [(key, value)]) name given ↔
      if name = key then given = value else LastSet sets name given := by
  constructor
  · rintro ⟨before, after, hsets, hafter⟩
    rcases List.eq_nil_or_concat after with rfl | ⟨rest, last, rfl⟩
    · obtain ⟨-, hsame⟩ := List.append_singleton_inj.mp hsets
      obtain ⟨rfl, rfl⟩ := Prod.mk.inj hsame
      rw [if_pos rfl]
    · rw [List.concat_eq_append] at hsets hafter
      rw [← List.cons_append, ← List.append_assoc] at hsets
      obtain ⟨rfl, rfl⟩ := List.append_singleton_inj.mp hsets
      simp only [List.map_append, List.map_cons, List.map_nil, List.mem_append,
        List.mem_singleton, not_or] at hafter
      rw [if_neg hafter.2]
      exact ⟨before, rest, rfl, hafter.1⟩
  · intro hlast
    split_ifs at hlast with hname
    · rw [hname, hlast]
      exact ⟨sets, [], rfl, List.not_mem_nil⟩
    · obtain ⟨before, after, rfl, hafter⟩ := hlast
      refine ⟨before, after ++ [(key, value)], by simp, ?_⟩
      rw [List.map_append, List.mem_append, not_or]
      exact ⟨hafter, by simpa using hname⟩

/-- Every key that is set is set for a last time. -/
theorem exists_lastSet (hkey : key ∈ sets.map Prod.fst) : ∃ value, LastSet sets key value := by
  induction sets using List.reverseRecOn with
  | nil => cases hkey
  | append_singleton sets set ih =>
      obtain ⟨name, given⟩ := set
      by_cases hname : key = name
      · exact ⟨given, lastSet_concat.mpr (by rw [if_pos hname])⟩
      · have hbefore : key ∈ sets.map Prod.fst := by simpa [hname] using hkey
        obtain ⟨value, hlast⟩ := ih hbefore
        exact ⟨value, lastSet_concat.mpr (by rwa [if_neg hname])⟩

theorem firstSet_lt (hkey : key ∈ sets.map Prod.fst) : firstSet sets key < sets.length := by
  have hlt := List.idxOf_lt_length_of_mem hkey
  rwa [List.length_map] at hlt

/-- A key that was set before is not set for the first time. -/
theorem firstSet_concat_of_mem (hkey : key ∈ sets.map Prod.fst) (set : Key × Value) :
    firstSet (sets ++ [set]) key = firstSet sets key := by
  rw [firstSet, List.map_append, List.idxOf_append_of_mem hkey, firstSet]

theorem firstSet_concat_of_notMem (hkey : key ∉ sets.map Prod.fst) (value : Value) :
    firstSet (sets ++ [(key, value)]) key = sets.length := by
  rw [firstSet, List.map_append, List.idxOf_append_of_notMem hkey]
  simp

/-! ## Setting a key of a list -/

/-- The keys stay where they are. -/
theorem map_fst_set_of_mem (hkey : key ∈ pairs.map Prod.fst) (value : Value) :
    (pairs.set key value).map Prod.fst = pairs.map Prod.fst := by
  induction pairs with
  | nil => cases hkey
  | cons pair pairs ih =>
      rw [set]
      split_ifs with hpair
      · rw [List.map_cons, List.map_cons, hpair]
      · have hothers : key ∈ pairs.map Prod.fst := by simpa [Ne.symm hpair] using hkey
        rw [List.map_cons, List.map_cons, ih hothers]

/-- Where no key is repeated, the pair with this key is replaced and the others stay. -/
theorem mem_set_iff (hpairs : (pairs.map Prod.fst).Nodup) :
    (name, given) ∈ pairs.set key value ↔
      if name = key then given = value else (name, given) ∈ pairs := by
  induction pairs with
  | nil =>
      rw [set, List.mem_singleton, Prod.mk.injEq]
      split_ifs with hname
      · exact and_iff_right hname
      · exact iff_of_false (fun hsame => hname hsame.1) List.not_mem_nil
  | cons pair pairs ih =>
      obtain ⟨first, found⟩ := pair
      rw [List.map_cons, List.nodup_cons] at hpairs
      obtain ⟨hfirst, hothers⟩ := hpairs
      rw [set]
      by_cases hkey : first = key
      · -- the pair that is replaced has the key, and no pair behind it has
        subst hkey
        rw [if_pos rfl, List.mem_cons, List.mem_cons, Prod.mk.injEq, Prod.mk.injEq]
        split_ifs with hname
        · subst hname
          have hnone : (name, given) ∉ pairs := by
            intro hmem
            have hkey : name ∈ pairs.map Prod.fst := List.mem_map_of_mem hmem
            exact hfirst hkey
          simp [hnone]
        · simp [hname]
      · rw [if_neg hkey, List.mem_cons, ih hothers, List.mem_cons, Prod.mk.injEq]
        split_ifs with hname
        · simp [hname, Ne.symm hkey]
        · exact Iff.rfl

/-- Where no key is repeated, the pair that is there is found. -/
theorem get?_eq_some_iff (hpairs : (pairs.map Prod.fst).Nodup) :
    pairs.get? key = some value ↔ (key, value) ∈ pairs := by
  refine ⟨mem_of_get?, fun hmem => ?_⟩
  induction pairs with
  | nil => cases hmem
  | cons pair pairs ih =>
      rw [List.map_cons, List.nodup_cons] at hpairs
      rw [get?_cons]
      rcases List.mem_cons.mp hmem with rfl | hmem
      · rw [if_pos rfl]
      · have hkey : key ∈ pairs.map Prod.fst := List.mem_map_of_mem hmem
        rw [if_neg (ne_of_mem_of_not_mem hkey hpairs.1), ih hpairs.2 hmem]

/-! ## Lists that reflect a sequence -/

namespace Reflects

variable (hpairs : Reflects sets pairs)
include hpairs

theorem mem_keys_iff : key ∈ pairs.map Prod.fst ↔ key ∈ sets.map Prod.fst := by
  constructor
  · intro hkey
    obtain ⟨⟨name, value⟩, hmem, rfl⟩ := List.mem_map.mp hkey
    exact List.mem_map_of_mem ((hpairs.mem_iff name value).mp hmem).mem
  · intro hkey
    obtain ⟨value, hlast⟩ := exists_lastSet hkey
    exact List.mem_map_of_mem ((hpairs.mem_iff key value).mpr hlast)

/-- No key is repeated. -/
theorem nodup : (pairs.map Prod.fst).Nodup := by
  refine hpairs.ordered.imp ?_
  rintro first _ hlt rfl
  exact Nat.lt_irrefl _ hlt

/-- What is found for a key is the value of its last set. -/
theorem get?_eq_some_iff : pairs.get? key = some value ↔ LastSet sets key value :=
  (Assoc.get?_eq_some_iff hpairs.nodup).trans (hpairs.mem_iff key value)

/-- Nothing is found for a key that was never set. -/
theorem get?_eq_none_iff : pairs.get? key = none ↔ key ∉ sets.map Prod.fst := by
  rw [← hpairs.mem_keys_iff]
  constructor
  · intro hnone hkey
    obtain ⟨⟨name, value⟩, hmem, rfl⟩ := List.mem_map.mp hkey
    rw [(Assoc.get?_eq_some_iff hpairs.nodup).mpr hmem] at hnone
    cases hnone
  · exact get?_of_notMem

/-- The order and the pairs leave no choice. -/
theorem unique (hothers : Reflects sets others) : others = pairs := by
  have hperm : others.Perm pairs := by
    refine (List.perm_ext_iff_of_nodup hothers.nodup.of_map hpairs.nodup.of_map).mpr ?_
    rintro ⟨key, value⟩
    exact (hothers.mem_iff key value).trans (hpairs.mem_iff key value).symm
  have hordered := hpairs.ordered
  have hotherOrdered := hothers.ordered
  rw [List.pairwise_map] at hordered hotherOrdered
  refine hperm.eq_of_pairwise ?_ hotherOrdered hordered
  intro first second _ _ hlt hgt
  exact absurd hlt (Nat.lt_asymm hgt)

/-- One more pair is set. -/
theorem set (key : Key) (value : Value) :
    Reflects (sets ++ [(key, value)]) (pairs.set key value) where
  ordered := by
    have hplace : ∀ name ∈ pairs.map Prod.fst,
        firstSet (sets ++ [(key, value)]) name = firstSet sets name :=
      fun name hname => firstSet_concat_of_mem (hpairs.mem_keys_iff.mp hname) (key, value)
    have hbefore : (pairs.map Prod.fst).Pairwise fun first second =>
        firstSet (sets ++ [(key, value)]) first < firstSet (sets ++ [(key, value)]) second := by
      refine hpairs.ordered.imp_of_mem fun hfirst hsecond hlt => ?_
      rwa [hplace _ hfirst, hplace _ hsecond]
    by_cases hkey : key ∈ pairs.map Prod.fst
    · rwa [map_fst_set_of_mem hkey]
    · rw [set_of_notMem hkey, List.map_append, List.pairwise_append]
      refine ⟨hbefore, List.pairwise_singleton _ _, ?_⟩
      intro name hname last hlast
      obtain rfl : last = key := List.mem_singleton.mp hlast
      rw [hplace name hname, firstSet_concat_of_notMem (mt hpairs.mem_keys_iff.mpr hkey)]
      exact firstSet_lt (hpairs.mem_keys_iff.mp hname)
  mem_iff := by
    intro name given
    rw [mem_set_iff hpairs.nodup, lastSet_concat, hpairs.mem_iff]

end Reflects

theorem reflects_nil : Reflects [] ([] : Assoc Key Value) where
  ordered := List.Pairwise.nil
  mem_iff := by
    intro key value
    exact iff_of_false List.not_mem_nil fun hlast => List.not_mem_nil hlast.mem

/-- **Setting pairs one after another gives the list that reflects the sequence.** -/
theorem reflects_ofSets (sets : List (Key × Value)) : Reflects sets (ofSets sets) := by
  induction sets using List.reverseRecOn with
  | nil => exact reflects_nil
  | append_singleton sets set ih =>
      rw [ofSets, List.foldl_concat]
      exact ih.set set.1 set.2

end CompileWatch.Assoc
