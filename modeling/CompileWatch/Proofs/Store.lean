import CompileWatch.Host
import CompileWatch.Store

/-!
# What the store holds

Every slot of the store holds the compilation that was appended to it, or that
compilation was removed.  A slot that is empty stays empty until the store is cleared,
and appending never touches an older slot.
-/

namespace CompileWatch

theorem RawJson.text_of_ofText? {text : String} {graph : RawJson}
    (hgraph : RawJson.ofText? text = .ok graph) : graph.text = text := by
  rw [ofText?] at hgraph
  split at hgraph
  · rw [← Except.ok.inj hgraph]
  · cases hgraph

namespace Store

theorem mem_live {store : Store} {snapshot : Snapshot} :
    snapshot ∈ store.live ↔ ∃ slot : Nat, store.slots[slot]? = some (.live snapshot) := by
  rw [live, List.mem_filterMap]
  constructor
  · rintro ⟨slot, hmem, hslot⟩
    cases slot with
    | removed => cases hslot
    | live other =>
        obtain rfl := Option.some.inj hslot
        exact List.mem_iff_getElem?.mp hmem
  · rintro ⟨index, hindex⟩
    exact ⟨_, List.mem_of_getElem? hindex, rfl⟩

/-! ## Removing -/

/-- The second store is the first one without some of its compilations. -/
def Reduces (store next : Store) : Prop :=
  next.size = store.size ∧ ∀ (slot : Nat) (snapshot : Snapshot),
    next.slots[slot]? = some (.live snapshot) → store.slots[slot]? = some (.live snapshot)

theorem Reduces.refl (store : Store) : store.Reduces store :=
  ⟨rfl, fun _ _ hslot => hslot⟩

theorem reduces_of_remove {store next : Store} {slot : Nat} (hremove : store.remove slot = .ok next) :
    store.Reduces next := by
  rw [remove] at hremove
  split at hremove
  · cases hremove
  · rw [← Except.ok.inj hremove]
    refine ⟨List.length_set .., fun other snapshot hother => ?_⟩
    rw [List.getElem?_set] at hother
    split at hother
    · -- the slot itself holds no compilation any more
      split at hother <;> cases hother
    · exact hother

/-! ## The compilations that were appended -/

/-- The compilations were appended in this order, and some of them may have been removed. -/
def Holds (store : Store) (appended : List Compilation) : Prop :=
  store.size = appended.length ∧ ∀ (slot : Nat) (snapshot : Snapshot),
    store.slots[slot]? = some (.live snapshot) →
      snapshot.slot = slot ∧ appended[slot]? = some ⟨snapshot.scripts, snapshot.graph.text⟩

theorem holds_empty : Holds {} [] :=
  ⟨rfl, by simp⟩

namespace Holds

variable {store next : Store} {appended : List Compilation}

theorem reduce (hholds : store.Holds appended) (hreduces : store.Reduces next) :
    next.Holds appended :=
  ⟨hreduces.1.trans hholds.1, fun slot snapshot hslot =>
    hholds.2 slot snapshot (hreduces.2 slot snapshot hslot)⟩

theorem append (hholds : store.Holds appended) {compilation : Compilation} {graph : RawJson}
    (hgraph : RawJson.ofText? compilation.json = .ok graph) :
    (store.append compilation.scripts graph).Holds (appended ++ [compilation]) := by
  obtain ⟨hsize, hslots⟩ := hholds
  refine ⟨by simp [Store.append, size, ← hsize], fun slot snapshot hslot => ?_⟩
  rw [Store.append, List.getElem?_append] at hslot
  by_cases holder : slot < store.slots.length
  · rw [if_pos holder] at hslot
    obtain ⟨hnumber, hkept⟩ := hslots slot snapshot hslot
    exact ⟨hnumber, by rw [List.getElem?_append_left (List.getElem?_eq_some_iff.mp hkept).1, hkept]⟩
  · -- the slot is the new one
    rw [if_neg holder, List.getElem?_singleton] at hslot
    split at hslot
    · obtain rfl : slot = store.size := by
        rw [size]
        omega
      obtain rfl := Slot.live.inj (Option.some.inj hslot)
      rw [hsize, List.getElem?_concat_length, RawJson.text_of_ofText? hgraph]
      exact ⟨rfl, rfl⟩
    · cases hslot

end Holds

end Store

end CompileWatch
