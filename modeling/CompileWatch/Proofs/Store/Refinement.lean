import CompileWatch.Store
import Mathlib.Data.Finset.Insert
import Mathlib.Data.List.Induction

/-!
# The store as a log

All that a store answers can be told from two things that it does not keep: the list of what was
appended since it was cleared, and the set of the numbers that were removed since then.  The number
of a compilation is its place in that list.  So a number is given once, it keeps its compilation
until that is removed, and a removed compilation never comes back; only clearing begins the list
again.
-/

namespace CompileWatch

/-! ## Operations and answers -/

/-- Something that is asked of a store. -/
inductive StoreOp
  | append (scripts : List Script) (graph : RawJson)
  | get (slot : Nat)
  | remove (slot : Nat)
  | clear
  | live
  | size
  deriving DecidableEq, Repr

/-- What a store answers. -/
inductive StoreAnswer
  /-- The number of the new compilation. -/
  | appended (slot : Nat)
  | got (result : Except StoreError Snapshot)
  | removed (result : Except StoreError Unit)
  | cleared
  | listed (snapshots : List Snapshot)
  | counted (size : Nat)

namespace Store

/-- The store after an operation.  A removal that is refused leaves it as it is. -/
def after (store : Store) : StoreOp → Store
  | .append scripts graph => store.append scripts graph
  | .remove slot => (store.remove slot).toOption.getD store
  | .clear => {}
  | .get _ | .live | .size => store

def answer (store : Store) : StoreOp → StoreAnswer
  | .append _ _ => .appended store.size
  | .get slot => .got (store.get slot)
  | .remove slot => .removed ((store.remove slot).map fun _ => ())
  | .clear => .cleared
  | .live => .listed store.live
  | .size => .counted store.size

def perform (store : Store) (ops : List StoreOp) : Store :=
  ops.foldl after store

end Store

/-! ## The log -/

/-- What was appended since the last clear, in order, and the numbers that were removed since
then. -/
structure StoreLog where
  appended : List (List Script × RawJson)
  removed : Finset Nat
  removed_lt : ∀ slot ∈ removed, slot < appended.length

namespace StoreLog

/-- The log of a store with which nothing was done yet. -/
def fresh : StoreLog where
  appended := []
  removed := ∅
  removed_lt := fun slot hslot => absurd hslot (Finset.notMem_empty slot)

def append (log : StoreLog) (scripts : List Script) (graph : RawJson) : StoreLog where
  appended := log.appended ++ [(scripts, graph)]
  removed := log.removed
  removed_lt := by
    intro slot hslot
    rw [List.length_append]
    exact Nat.lt_add_right _ (log.removed_lt slot hslot)

def remove (log : StoreLog) (slot : Nat) (hslot : slot < log.appended.length) : StoreLog where
  appended := log.appended
  removed := insert slot log.removed
  removed_lt := by
    intro other hother
    rcases Finset.mem_insert.mp hother with rfl | hother
    · exact hslot
    · exact log.removed_lt other hother

def get (log : StoreLog) (slot : Nat) : Except StoreError Snapshot :=
  match log.appended[slot]? with
  | none => .error (.notFound slot)
  | some (scripts, graph) =>
    if slot ∈ log.removed then .error (.removed slot) else .ok ⟨slot, scripts, graph⟩

/-- What was appended and not removed, in the order of the numbers. -/
def live (log : StoreLog) : List Snapshot :=
  (List.range log.appended.length).filterMap fun slot => (log.get slot).toOption

def after (log : StoreLog) : StoreOp → StoreLog
  | .append scripts graph => log.append scripts graph
  | .remove slot => if hslot : slot < log.appended.length then log.remove slot hslot else log
  | .clear => fresh
  | .get _ | .live | .size => log

/-- A removal succeeds for every number that was ever given, also when it is repeated. -/
def answer (log : StoreLog) : StoreOp → StoreAnswer
  | .append _ _ => .appended log.appended.length
  | .get slot => .got (log.get slot)
  | .remove slot =>
    .removed (if slot < log.appended.length then .ok () else .error (.notFound slot))
  | .clear => .cleared
  | .live => .listed log.live
  | .size => .counted log.appended.length

def perform (log : StoreLog) (ops : List StoreOp) : StoreLog :=
  ops.foldl after log

/-! ## The store that a log describes -/

def toStore (log : StoreLog) : Store where
  slots := log.appended.mapIdx fun slot entry =>
    if slot ∈ log.removed then .removed else .live ⟨slot, entry.1, entry.2⟩

variable (log : StoreLog)

@[simp]
theorem size_toStore : log.toStore.size = log.appended.length := by
  simp [toStore, Store.size]

theorem getElem?_toStore (slot : Nat) :
    log.toStore.slots[slot]? = log.appended[slot]?.map fun entry =>
      if slot ∈ log.removed then .removed else .live ⟨slot, entry.1, entry.2⟩ := by
  rw [toStore, List.getElem?_mapIdx]

theorem toStore_append (scripts : List Script) (graph : RawJson) :
    (log.append scripts graph).toStore = log.toStore.append scripts graph := by
  -- the new number was not removed before it was given
  have hnew : log.appended.length ∉ log.removed := fun hremoved =>
    Nat.lt_irrefl _ (log.removed_lt _ hremoved)
  rw [Store.append, size_toStore, toStore, toStore, append, List.mapIdx_append]
  simp [hnew]

theorem toStore_remove {slot : Nat} (hslot : slot < log.appended.length) :
    log.toStore.remove slot = .ok (log.remove slot hslot).toStore := by
  have hfound := log.getElem?_toStore slot
  rw [List.getElem?_eq_getElem hslot, Option.map_some] at hfound
  have hslots : log.toStore.slots.set slot .removed = (log.remove slot hslot).toStore.slots := by
    apply List.ext_getElem?
    intro other
    rw [getElem?_toStore, remove]
    by_cases hsame : other = slot
    · subst hsame
      have hlength : other < log.toStore.slots.length := by
        rw [← Store.size, size_toStore]
        exact hslot
      rw [List.getElem?_set_self hlength]
      simp [List.getElem?_eq_getElem hslot]
    · rw [List.getElem?_set_ne (Ne.symm hsame), getElem?_toStore]
      simp [hsame]
  rw [Store.remove, hfound]
  dsimp only
  rw [hslots]

theorem get_toStore (slot : Nat) : log.toStore.get slot = log.get slot := by
  rw [Store.get, get, getElem?_toStore]
  cases log.appended[slot]? with
  | none => rfl
  | some entry =>
      rw [Option.map_some]
      by_cases hremoved : slot ∈ log.removed
      · simp [hremoved]
      · simp [hremoved]

end StoreLog

theorem Store.remove_of_le {store : Store} {slot : Nat} (hslot : store.size ≤ slot) :
    store.remove slot = .error (.notFound slot) := by
  rw [remove, List.getElem?_eq_none hslot]

/-- The listing of a store looks up one number after the other. -/
theorem Store.live_eq (store : Store) :
    store.live = (List.range store.size).filterMap fun slot => (store.get slot).toOption := by
  rcases store with ⟨slots⟩
  induction slots using List.reverseRecOn with
  | nil => rfl
  | append_singleton slots slot ih =>
      -- a slot that is added changes none of the other look-ups
      have hkept : ∀ number ∈ List.range slots.length,
          (get ⟨slots ++ [slot]⟩ number).toOption = (get ⟨slots⟩ number).toOption := by
        intro number hnumber
        rw [get, get, List.getElem?_append_left (List.mem_range.mp hnumber)]
      have hlast : (get ⟨slots ++ [slot]⟩ slots.length).toOption =
          match slot with
          | .live snapshot => some snapshot
          | .removed => none := by
        rw [get, List.getElem?_concat_length]
        cases slot <;> rfl
      have hlive : live ⟨slots ++ [slot]⟩ = live ⟨slots⟩ ++ live ⟨[slot]⟩ :=
        List.filterMap_append
      rw [hlive, ih, size, size, List.length_append, List.length_singleton, List.range_succ,
        List.filterMap_append, List.filterMap_congr hkept]
      congr 1
      rw [List.filterMap_cons, hlast]
      cases slot <;> rfl

namespace StoreLog

variable (log : StoreLog)

theorem live_toStore : log.toStore.live = log.live := by
  rw [Store.live_eq, live, size_toStore]
  simp only [get_toStore]

theorem get_eq_ok {slot : Nat} {snapshot : Snapshot} (hget : log.get slot = .ok snapshot) :
    snapshot.slot = slot ∧ slot < log.appended.length := by
  rw [get] at hget
  split at hget
  · cases hget
  · rename_i hentry
    split at hget
    · cases hget
    · rw [← Except.ok.inj hget]
      exact ⟨rfl, (List.getElem?_eq_some_iff.mp hentry).1⟩

/-- A compilation that is looked up has the number under which it is found. -/
theorem get_of_toOption {slot : Nat} {snapshot : Snapshot}
    (hfound : (log.get slot).toOption = some snapshot) :
    snapshot.slot = slot ∧ log.get slot = .ok snapshot := by
  cases hget : log.get slot with
  | error error => simp [hget, Except.toOption] at hfound
  | ok found =>
      obtain rfl : found = snapshot := by simpa [hget, Except.toOption] using hfound
      exact ⟨(log.get_eq_ok hget).1, rfl⟩

theorem mem_live {snapshot : Snapshot} :
    snapshot ∈ log.live ↔ log.get snapshot.slot = .ok snapshot := by
  rw [live, List.mem_filterMap]
  constructor
  · rintro ⟨slot, -, hfound⟩
    obtain ⟨rfl, hget⟩ := log.get_of_toOption hfound
    exact hget
  · intro hget
    refine ⟨snapshot.slot, List.mem_range.mpr (log.get_eq_ok hget).2, ?_⟩
    rw [hget]
    rfl

theorem pairwise_live : log.live.Pairwise fun first second => first.slot < second.slot := by
  rw [live, List.pairwise_filterMap]
  refine List.pairwise_lt_range.imp ?_
  intro earlier later horder first hfirst second hsecond
  rw [(log.get_of_toOption hfirst).1, (log.get_of_toOption hsecond).1]
  exact horder

/-! ## Runs -/

theorem toStore_after (op : StoreOp) : (log.after op).toStore = log.toStore.after op := by
  cases op with
  | append scripts graph => exact log.toStore_append scripts graph
  | remove slot =>
      rw [after, Store.after]
      by_cases hslot : slot < log.appended.length
      · rw [dif_pos hslot, log.toStore_remove hslot]
        rfl
      · rw [dif_neg hslot, Store.remove_of_le (by simpa using hslot)]
        rfl
  | clear => rfl
  | get | live | size => rfl

theorem answer_toStore (op : StoreOp) : log.toStore.answer op = log.answer op := by
  cases op with
  | append scripts graph => rw [Store.answer, answer, size_toStore]
  | get slot => rw [Store.answer, answer, get_toStore]
  | remove slot =>
      rw [Store.answer, answer]
      by_cases hslot : slot < log.appended.length
      · rw [if_pos hslot, log.toStore_remove hslot]
        rfl
      · rw [if_neg hslot, Store.remove_of_le (by simpa using hslot)]
        rfl
  | clear => rfl
  | live => rw [Store.answer, answer, live_toStore]
  | size => rw [Store.answer, answer, size_toStore]

/-- **The store is the one that the log describes**, after any operations. -/
theorem toStore_perform (ops : List StoreOp) :
    (log.perform ops).toStore = log.toStore.perform ops := by
  induction ops generalizing log with
  | nil => rfl
  | cons op rest ih =>
      rw [perform, List.foldl_cons, ← perform, ih, toStore_after]
      rfl

end StoreLog

/-! ## Removals -/

/-- A removal that succeeds empties its slot, for good, and touches no other slot. -/
structure Store.Removes (store next : Store) (slot : Nat) : Prop where
  size : next.size = store.size
  emptied : next.get slot = .error (.removed slot)
  others : ∀ other ≠ slot, next.slots[other]? = store.slots[other]?
  repeated : next.remove slot = .ok next

theorem Store.remove_of_lt {store : Store} {slot : Nat} (hslot : slot < store.size) :
    ∃ next, store.remove slot = .ok next ∧ store.Removes next slot := by
  have hself : (store.slots.set slot .removed)[slot]? = some .removed :=
    List.getElem?_set_self hslot
  refine ⟨⟨store.slots.set slot .removed⟩, ?_, List.length_set, ?_, ?_, ?_⟩
  · rw [remove, List.getElem?_eq_getElem hslot]
  · rw [get, hself]
  · intro other hother
    exact List.getElem?_set_ne (Ne.symm hother)
  · rw [remove, hself]
    simp

/-- **The store answers like its log.**  Whatever was done with a store that was empty at first, it
answers every operation like the log of what was appended since the last clear and of what was
removed since then.  It has as many slots as there were appends.  A removal succeeds for the numbers
that were given, again after the first time, and changes nothing but its slot; every other removal
is refused and changes nothing.  What is listed are the compilations that can be looked up, in the
order of their numbers, each with its own. -/
theorem Store.answers_like_log (ops : List StoreOp) :
    let store := Store.perform {} ops
    let log := StoreLog.fresh.perform ops
    (∀ op, store.answer op = log.answer op) ∧
    store.size = log.appended.length ∧
    (∀ slot, slot < store.size → ∃ next, store.remove slot = .ok next ∧ store.Removes next slot) ∧
    (∀ slot, store.size ≤ slot → store.remove slot = .error (.notFound slot) ∧
      store.after (.remove slot) = store) ∧
    (∀ snapshot, snapshot ∈ store.live ↔ store.get snapshot.slot = .ok snapshot) ∧
    store.live.Pairwise (fun first second => first.slot < second.slot) := by
  intro store log
  have hstore : log.toStore = store := StoreLog.fresh.toStore_perform ops
  refine ⟨?_, ?_, fun slot hslot => remove_of_lt hslot, ?_, ?_, ?_⟩
  · rw [← hstore]
    exact log.answer_toStore
  · rw [← hstore, StoreLog.size_toStore]
  · intro slot hslot
    refine ⟨remove_of_le hslot, ?_⟩
    rw [after, remove_of_le hslot]
    rfl
  · intro snapshot
    rw [← hstore, StoreLog.live_toStore, StoreLog.get_toStore]
    exact log.mem_live
  · rw [← hstore, StoreLog.live_toStore]
    exact log.pairwise_live

/-- A number that was removed is not given again. -/
example (graph : RawJson) :
    (Store.perform {} [.append [] graph, .remove 0, .append [] graph]).live = [⟨1, [], graph⟩] :=
  rfl

end CompileWatch
