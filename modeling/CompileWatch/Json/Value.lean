import CompileWatch.Binary64.Shortest
import CompileWatch.Text.Assoc

/-!
# JSON values

The tree that a JSON text stands for.  The members of an object are kept as they
are written, repeated names included, because a reader of fields looks at every
one of them; `Value.merged` is the value in which every name occurs once.

There a repeated name keeps its first position, and what it holds is built up from
one occurrence to the next.  An object adds its members to an object that was there
before, in the same way; an array adds its items to an array that was there before,
and gives way to any other value; everything else replaces what was there.
-/

namespace CompileWatch.Json

/-- A number, which is an integer unless it was written with a point or an exponent. -/
inductive Number
  | integer (value : Int)
  | real (value : Binary64)
  deriving DecidableEq, Repr

/-- A JSON value. -/
inductive Value
  | null
  | bool (value : Bool)
  | number (value : Number)
  | string (text : String)
  | array (items : List Value)
  | object (members : List (String × Value))
  deriving Repr, Inhabited

namespace Number

/-- The number in decimal digits. -/
def text : Number → List Char
  | .integer value => (toString value).toList
  | .real value => value.text

/-- The integer that a number stands for, if it is one and lies between `least` and `greatest`.  A
real number may also lie one above `greatest`, which it stands for then. -/
def integerWithin? (least greatest : Int) : Number → Option Int
  | .integer value => if least ≤ value ∧ value ≤ greatest then some value else none
  | .real value =>
    (value.whole?.filter fun whole => least ≤ whole ∧ whole ≤ greatest + 1).map (min greatest)

/-- The integer that a number stands for, if it has one that fits in 64 bits with a sign. -/
def signed64? : Number → Option Int :=
  integerWithin? (-Nat.pow 2 63) (Nat.pow 2 63 - 1)

/-- The integer that a number stands for, if it has one that fits in 64 bits without a sign. -/
def unsigned64? : Number → Option Int :=
  integerWithin? 0 (Nat.pow 2 64 - 1)

end Number

namespace Value

/-- A natural number as a value. -/
def natural (n : Nat) : Value :=
  .number (.integer n)

/-- A value or `null`. -/
def ofOption {α : Type} (encode : α → Value) : Option α → Value
  | none => .null
  | some a => encode a

/-- A list as an array. -/
def ofList {α : Type} (encode : α → Value) (items : List α) : Value :=
  .array (items.map encode)

/-- The members of an object, and none of any other value. -/
def membersOf : Option Value → Assoc String Value
  | some (.object members) => members
  | _ => []

/-- What an array of the given items makes of what was there before. -/
def withItems (before : Option Value) (items : List Value) : Value :=
  match before with
  | none => .array items
  | some (.array first) => .array (first ++ items)
  | some other => other

mutual

/-- What a value makes of what was there before, with each name of an object once at every
depth. -/
def mergedInto (before : Option Value) : Value → Value
  | .array items => withItems before (mergedItems items)
  | .object members => .object (mergedMembers (membersOf before) members)
  | .null => .null
  | .bool value => .bool value
  | .number value => .number value
  | .string text => .string text

/-- The items of an array, in each of which nothing was there before. -/
def mergedItems : List Value → List Value
  | [] => []
  | item :: rest => mergedInto none item :: mergedItems rest

/-- The members that were there before, with further ones merged into them one after the other. -/
def mergedMembers (before : Assoc String Value) : List (String × Value) → Assoc String Value
  | [] => before
  | (name, value) :: rest =>
    mergedMembers (before.set name (mergedInto (before.get? name) value)) rest

end

/-- The value in which each name of an object occurs once, at every depth. -/
def merged (value : Value) : Value :=
  mergedInto none value

end Value

end CompileWatch.Json
