import CompileWatch.Json.Field
import Mathlib.Data.List.Nodup

/-!
# What a field depends on

A field is read from the members of its name, and only the order of these among themselves counts.
If the names of an object are distinct, a field is what the one member of its name holds, wherever
that stands.  The same is true of the kind of a tagged message.
-/

namespace CompileWatch.Json.Value

variable {α : Type} {decode : Value → Option α} {name : String} {member : String × Value}
  {before after members members' : List (String × Value)}

/-! ## Distinct names -/

/-- No two members have the same name. -/
def NamesDistinct (members : List (String × Value)) : Prop :=
  (members.map Prod.fst).Nodup

/-- Of distinct names, at most one is the given one. -/
theorem NamesDistinct.length_filter_le (hnames : NamesDistinct members) (name : String) :
    (members.filter fun member => member.1 = name).length ≤ 1 := by
  have hsame : (members.filter fun member => member.1 = name).map Prod.fst =
      List.replicate (members.filter fun member => member.1 = name).length name := by
    rw [List.eq_replicate_iff]
    simp
  have hfound : ((members.filter fun member => member.1 = name).map Prod.fst).Nodup :=
    hnames.sublist (List.filter_sublist.map Prod.fst)
  rwa [hsame, List.nodup_replicate] at hfound

/-- The order of an object does not matter for the members of one name. -/
theorem NamesDistinct.filter_eq_of_perm (hnames : NamesDistinct members)
    (hperm : members.Perm members') (name : String) :
    (members.filter fun member => member.1 = name) =
      members'.filter fun member => member.1 = name := by
  have hfound := hperm.filter fun member => decide (member.1 = name)
  have hlength := hnames.length_filter_le name
  cases hfirst : members.filter fun member => decide (member.1 = name) with
  | nil =>
      rw [hfirst] at hfound
      exact hfound.nil_eq
  | cons first rest =>
      rw [hfirst] at hfound hlength
      obtain rfl : rest = [] := List.length_eq_zero_iff.mp (by simpa using hlength)
      exact hfound.singleton_eq

/-! ## Fields -/

theorem occurrences?_insert (hname : member.1 ≠ name) :
    occurrences? decode name (before ++ member :: after) =
      occurrences? decode name (before ++ after) := by
  simp only [occurrences?, List.filter_append, List.filter_cons, hname, decide_false,
    Bool.false_eq_true, if_false]

theorem occurrences?_perm (hnames : NamesDistinct members) (hperm : members.Perm members') :
    occurrences? decode name members = occurrences? decode name members' := by
  rw [occurrences?, occurrences?, hnames.filter_eq_of_perm hperm]

/-- What a member holds counts only for the field of its name, and only as it is read there. -/
theorem occurrences?_replace {changed : String} {value value' : Value}
    (hdecode : changed = name → decode value = decode value') :
    occurrences? decode name (before ++ (changed, value) :: after) =
      occurrences? decode name (before ++ (changed, value') :: after) := by
  by_cases hname : changed = name
  · simp only [occurrences?, List.filter_append, List.filter_cons, hname, decide_true, if_true,
      List.mapM_append, List.mapM_cons, hdecode hname]
  · rw [occurrences?_insert hname, occurrences?_insert hname]

theorem occurrences?_of_notMem (hname : name ∉ members.map Prod.fst) :
    occurrences? decode name members = some none := by
  have hnone : (members.filter fun member => member.1 = name) = [] := by
    rw [List.filter_eq_nil_iff]
    intro member hmem
    simp only [decide_eq_true_eq]
    rintro rfl
    exact hname (List.mem_map_of_mem hmem)
  rw [occurrences?, hnone]
  rfl

/-- With distinct names, a field is what the member of its name holds. -/
theorem occurrences?_of_distinct {value : Value}
    (hnames : NamesDistinct (before ++ (name, value) :: after)) :
    occurrences? decode name (before ++ (name, value) :: after) = (decode value).map some := by
  have hlength := hnames.length_filter_le name
  have hfilter : (before ++ (name, value) :: after).filter (fun member => member.1 = name) =
      before.filter (fun member => member.1 = name) ++
        (name, value) :: after.filter fun member => member.1 = name := by
    simp
  rw [hfilter] at hlength
  simp only [List.length_append, List.length_cons] at hlength
  have hbefore := List.length_eq_zero_iff.mp
    (show (before.filter fun member => member.1 = name).length = 0 by omega)
  have hafter := List.length_eq_zero_iff.mp
    (show (after.filter fun member => member.1 = name).length = 0 by omega)
  rw [occurrences?, hfilter, hbefore, hafter]
  cases hvalue : decode value <;> simp [hvalue]

/-! ## Kinds -/

theorem lookup_eq_head? (name : String) (members : List (String × Value)) :
    members.lookup name = (members.filter fun member => member.1 = name).head?.map Prod.snd := by
  induction members with
  | nil => rfl
  | cons member members ih =>
      obtain ⟨first, value⟩ := member
      rw [List.lookup_cons, List.filter_cons]
      by_cases hname : first = name
      · simp [hname]
      · rw [beq_false_of_ne (Ne.symm hname), if_neg (by simpa using hname), ← ih]

theorem kind?_insert (hname : member.1 ≠ "type") :
    kind? (before ++ member :: after) = kind? (before ++ after) := by
  simp only [kind?, lookup_eq_head?, List.filter_append, List.filter_cons, hname, decide_false,
    Bool.false_eq_true, if_false]

theorem kind?_perm (hnames : NamesDistinct members) (hperm : members.Perm members') :
    kind? members = kind? members' := by
  simp only [kind?, lookup_eq_head?, hnames.filter_eq_of_perm hperm]

theorem kind?_replace {changed : String} (hname : changed ≠ "type") (value value' : Value) :
    kind? (before ++ (changed, value) :: after) = kind? (before ++ (changed, value') :: after) := by
  rw [kind?_insert hname, kind?_insert hname]

end CompileWatch.Json.Value
