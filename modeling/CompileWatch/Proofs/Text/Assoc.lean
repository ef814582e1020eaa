import CompileWatch.Text.Assoc

/-!
# Setting and looking up

A key that is set anew gets a place at the end, and one that was set before keeps its
place.  Looking a key up finds the first pair with it.
-/

namespace CompileWatch.Assoc

variable {Key Value : Type} [DecidableEq Key] {pairs : Assoc Key Value} {key : Key}
  {value : Value}

/-! ## Setting -/

theorem set_of_notMem (hkey : key ∉ pairs.map Prod.fst) (value : Value) :
    pairs.set key value = pairs ++ [(key, value)] := by
  induction pairs with
  | nil => rfl
  | cons pair pairs ih =>
      rw [List.map_cons, List.mem_cons, not_or] at hkey
      rw [set, if_neg (Ne.symm hkey.1), ih hkey.2, List.cons_append]

theorem mem_set {pair : Key × Value} (hpair : pair ∈ pairs.set key value) :
    pair = (key, value) ∨ pair ∈ pairs := by
  induction pairs with
  | nil => exact .inl (List.mem_singleton.mp hpair)
  | cons first rest ih =>
      rw [set] at hpair
      split at hpair
      · rcases List.mem_cons.mp hpair with h | h
        · exact .inl h
        · exact .inr (List.mem_cons_of_mem _ h)
      · rcases List.mem_cons.mp hpair with h | h
        · exact .inr (h ▸ List.mem_cons_self)
        · exact (ih h).imp_right (List.mem_cons_of_mem _)

/-! ## Looking up -/

theorem get?_nil (key : Key) : get? key ([] : Assoc Key Value) = none := rfl

theorem get?_cons (pair : Key × Value) (pairs : Assoc Key Value) (key : Key) :
    get? key (pair :: pairs) = if key = pair.1 then some pair.2 else get? key pairs := by
  obtain ⟨name, found⟩ := pair
  rw [get?, List.lookup_cons]
  by_cases hname : key = name
  · rw [if_pos hname, hname, beq_self_eq_true]
  · rw [if_neg hname, beq_false_of_ne hname]
    rfl

theorem get?_of_notMem (hkey : key ∉ pairs.map Prod.fst) : pairs.get? key = none := by
  induction pairs with
  | nil => rfl
  | cons pair pairs ih =>
      rw [List.map_cons, List.mem_cons, not_or] at hkey
      rw [get?_cons, if_neg hkey.1, ih hkey.2]

theorem mem_of_get? (hvalue : pairs.get? key = some value) : (key, value) ∈ pairs := by
  induction pairs with
  | nil => cases hvalue
  | cons pair pairs ih =>
      rw [get?_cons] at hvalue
      split at hvalue
      case isTrue hkey =>
        obtain rfl := Option.some.inj hvalue
        rw [hkey]
        exact List.mem_cons_self
      case isFalse => exact List.mem_cons_of_mem _ (ih hvalue)

theorem get?_append (first second : Assoc Key Value) (key : Key) :
    get? key (first ++ second) = (get? key first).or (get? key second) :=
  List.lookup_append

end CompileWatch.Assoc
