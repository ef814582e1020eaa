/-!
# Unsigned integers as decimal text

Reading is for fields that hold a word: an optional plus sign, at least one
digit, leading zeros allowed, and a value below a bound.
-/

namespace CompileWatch.Text

/-- The number that a nonempty row of decimal digits stands for. -/
def natural? (text : List Char) : Option Nat :=
  if text ≠ [] ∧ text.all Char.isDigit then some (Nat.ofDigitChars 10 text 0) else none

/-- Drops one plus sign in front, if there is one. -/
def dropPlus : List Char → List Char
  | [] => []
  | c :: rest => if c = '+' then rest else c :: rest

/-- Reads an unsigned integer below `bound`. -/
def unsigned? (bound : Nat) (text : List Char) : Option Nat :=
  (natural? (dropPlus text)).filter (· < bound)

end CompileWatch.Text
