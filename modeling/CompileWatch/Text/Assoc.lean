/-!
# Ordered association lists

A list of pairs in which a key that is set twice keeps its first position and
takes the last value.
-/

namespace CompileWatch

variable {Key Value : Type} [DecidableEq Key]

/-- Pairs in the order in which their keys were first set. -/
abbrev Assoc (Key Value : Type) := List (Key × Value)

namespace Assoc

/-- Gives `key` the value `value`, in its old position if it has one and at the end if not. -/
def set (key : Key) (value : Value) : Assoc Key Value → Assoc Key Value
  | [] => [(key, value)]
  | pair :: rest => if pair.1 = key then (key, value) :: rest else pair :: set key value rest

/-- The value of `key`, if it was set. -/
def get? (key : Key) (pairs : Assoc Key Value) : Option Value :=
  List.lookup key pairs

/-- The list that results from setting the given pairs in order. -/
def ofSets (sets : List (Key × Value)) : Assoc Key Value :=
  sets.foldl (fun pairs pair => pairs.set pair.1 pair.2) []

end Assoc

end CompileWatch
