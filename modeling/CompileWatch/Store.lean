import CompileWatch.RawJson

/-!
# The store

The store keeps the compilations that were recorded in a session.  The
compilation in slot `n` was the `n`-th one to be recorded, counted from zero.
Removing it leaves the slot behind, so that no other compilation ever moves into
it, and only clearing the store starts the numbers again.
-/

namespace CompileWatch

/-- A recorded compilation, with its graph as the compiler wrote it. -/
structure Snapshot where
  /-- The slot in which the compilation was recorded. -/
  slot : Nat
  scripts : List Script
  graph : RawJson
  deriving DecidableEq, Repr

inductive Slot
  | live (snapshot : Snapshot)
  | removed
  deriving DecidableEq, Repr

/-- Why a compilation is not in the store. -/
inductive StoreError
  /-- Nothing was ever recorded in the slot. -/
  | notFound (slot : Nat)
  | removed (slot : Nat)
  deriving DecidableEq, Repr

namespace StoreError

def slot : StoreError → Nat
  | .notFound slot => slot
  | .removed slot => slot

def message : StoreError → String
  | .notFound slot => "compilation " ++ toString slot ++ " not found"
  | .removed slot => "compilation " ++ toString slot ++ " was removed"

end StoreError

/-- The compilations of a session by slot. -/
structure Store where
  slots : List Slot := []
  deriving DecidableEq, Repr

namespace Store

/-- The number of slots, which is also the slot of the next compilation. -/
def size (store : Store) : Nat :=
  store.slots.length

def isEmpty (store : Store) : Bool :=
  store.slots.isEmpty

def append (store : Store) (scripts : List Script) (graph : RawJson) : Store :=
  ⟨store.slots ++ [.live ⟨store.size, scripts, graph⟩]⟩

def get (store : Store) (slot : Nat) : Except StoreError Snapshot :=
  match store.slots[slot]? with
  | none => .error (.notFound slot)
  | some .removed => .error (.removed slot)
  | some (.live snapshot) => .ok snapshot

/-- Removes the compilation in a slot.  Removing it again does nothing. -/
def remove (store : Store) (slot : Nat) : Except StoreError Store :=
  match store.slots[slot]? with
  | none => .error (.notFound slot)
  | some _ => .ok ⟨store.slots.set slot .removed⟩

/-- The compilations that were not removed, in order. -/
def live (store : Store) : List Snapshot :=
  store.slots.filterMap fun
    | .live snapshot => some snapshot
    | .removed => none

end Store

end CompileWatch
