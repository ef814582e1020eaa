/-!
# Binary floating point numbers of 64 bits

A finite number is a sign, a significand and a power of two, in the canonical
form of the format: the significand is below `2 ^ 53`, the exponent is between
`-1074` and `971`, and a significand below `2 ^ 52` only occurs with the least
exponent.  Zero keeps its sign.  There is no value for an undefined result,
because none is ever read.
-/

namespace CompileWatch

inductive Binary64
  /-- The number `significand * 2 ^ exponent`, with a sign. -/
  | finite (negative : Bool) (significand : Nat) (exponent : Int)
  | infinite (negative : Bool)
  deriving DecidableEq, Repr, Inhabited

namespace Binary64

/-- The least exponent, which subnormal numbers and zero have. -/
def minExponent : Int := -1074

/-- The exponent of the largest finite numbers. -/
def maxExponent : Int := 971

/-- The size of a significand: each is below this number. -/
def significandBound : Nat := Nat.pow 2 53

/-- The significand at which the numbers of one exponent begin, unless it is the least. -/
def hiddenBit : Nat := Nat.pow 2 52

/-- The value of a whole number, `none` for one with a fractional part or an infinity. -/
def whole? : Binary64 → Option Int
  | .infinite _ => none
  | .finite negative significand exponent =>
    let magnitude? : Option Nat :=
      if 0 ≤ exponent then some (significand * Nat.pow 2 exponent.toNat)
      else if significand % Nat.pow 2 (-exponent).toNat = 0 then
        some (significand / Nat.pow 2 (-exponent).toNat)
      else none
    magnitude?.map fun magnitude => if negative then -(magnitude : Int) else magnitude

end Binary64

end CompileWatch
