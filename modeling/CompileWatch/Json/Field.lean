import CompileWatch.Json.Value
import CompileWatch.Text.Unsigned

/-!
# Reading fields out of JSON values

Each target type has one rule that says which values it accepts.

* A word accepts any integer, of which it keeps the low bits, and any real number
  or string whose text is an unsigned integer that fits.  `null` is zero.
* A text accepts a string and any number, which stands for its decimal text.
  `null` is the empty text.
* An optional value is absent for `null`.  A list only accepts an array.
* One of several names is written as a string, or as an object with an empty object
  under that name and nothing else.

A field of an object may be written more than once.  Every occurrence has to be
acceptable, and the last one counts.
-/

namespace CompileWatch.Json.Value

/-! ## Scalars, options and lists -/

/-- Reads a word of the given size, that is, a number below `size`. -/
def toWord? (size : Nat) : Value → Option Nat
  | .null => some 0
  | .number (.integer value) => some (value % (size : Int)).toNat
  | .number (.real value) => Text.unsigned? size value.text
  | .string text => Text.unsigned? size text.toList
  | _ => none

def toUInt32? (value : Value) : Option UInt32 :=
  (value.toWord? UInt32.size).map UInt32.ofNat

def toUInt64? (value : Value) : Option UInt64 :=
  (value.toWord? UInt64.size).map UInt64.ofNat

def toText? : Value → Option String
  | .null => some ""
  | .number value => some (String.ofList value.text)
  | .string text => some text
  | _ => none

/-- Reads a value that may be absent. -/
def toOption? {α : Type} (decode : Value → Option α) : Value → Option (Option α)
  | .null => some none
  | value => (decode value).map some

def toList? {α : Type} (decode : Value → Option α) : Value → Option (List α)
  | .array items => items.mapM decode
  | _ => none

/-- Reads a name that stands for one of several choices. -/
def choice? : Value → Option String
  | .string name => some name
  | .object [(name, .object [])] => some name
  | _ => none

/-- The members of an object. -/
def members? : Value → Option (List (String × Value))
  | .object members => some members
  | _ => none

/-! ## Fields -/

/-- What the members called `name` hold: nothing if there is none, and what the last one holds if
all of them are acceptable. -/
def occurrences? {α : Type} (decode : Value → Option α) (name : String)
    (members : List (String × Value)) : Option (Option α) :=
  ((members.filter fun member => member.1 = name).mapM fun member => decode member.2).map
    List.getLast?

/-- A field that has to be present. -/
def field? {α : Type} (decode : Value → Option α) (name : String)
    (members : List (String × Value)) : Option α :=
  (occurrences? decode name members).join

/-- A field that may be left out, with the value it has then. -/
def fieldOr? {α : Type} (missing : α) (decode : Value → Option α) (name : String)
    (members : List (String × Value)) : Option α :=
  (occurrences? decode name members).map fun found => found.getD missing

/-- The kind of a tagged message, which is the string under the first member called `type`. -/
def kind? (members : List (String × Value)) : Option String :=
  match List.lookup "type" members with
  | some (.string kind) => some kind
  | _ => none

end CompileWatch.Json.Value
