import CompileWatch.Json.Field

/-!
# Compilation ids

The store numbers the compilations of a session from zero.  In messages such a
number is a word of 64 bits, written as a bare number.
-/

namespace CompileWatch

/-- The number of a compilation, as messages carry it. -/
structure CompilationId where
  word : UInt64
  deriving DecidableEq, Repr, Inhabited

namespace CompilationId

/-- The id of the compilation in the given slot of the store. -/
def ofSlot (slot : Nat) : CompilationId :=
  ⟨UInt64.ofNat slot⟩

/-- The slot of the store that the id names. -/
def slot (id : CompilationId) : Nat :=
  id.word.toNat

/-- The id in decimal digits. -/
def text (id : CompilationId) : String :=
  toString id.slot

def ofJson? (value : Json.Value) : Option CompilationId :=
  value.toUInt64?.map CompilationId.mk

def toJson (id : CompilationId) : Json.Value :=
  .natural id.slot

end CompilationId

end CompileWatch
