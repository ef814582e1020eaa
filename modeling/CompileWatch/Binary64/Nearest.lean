import CompileWatch.Binary64.Basic

/-!
# The nearest number

A decimal is read as the floating point number nearest to it, a tie going to the
even significand.  All arithmetic is exact, in natural numbers.  What lies half a
unit or more beyond the largest finite number is infinite.
-/

namespace CompileWatch.Binary64

/-- The natural number nearest to `numerator / denominator`; a half goes to the even neighbour. -/
def roundHalfEven (numerator denominator : Nat) : Nat :=
  let quotient := numerator / denominator
  let remainder := numerator % denominator
  if 2 * remainder < denominator ∨ 2 * remainder = denominator ∧ quotient % 2 = 0 then quotient
  else quotient + 1

/-- The ratio `numerator / denominator` as a ratio of multiples of `2 ^ exponent`. -/
def inUnitsOf (exponent : Int) (numerator denominator : Nat) : Nat × Nat :=
  (numerator * Nat.pow 2 (-exponent).toNat, denominator * Nat.pow 2 exponent.toNat)

/-- The exponent of the numbers around `numerator / denominator`, both positive.  At the first
guess the significand has 53 or 54 binary digits; in the second case it is one more. -/
def exponentOf (numerator denominator : Nat) : Int :=
  let guess : Int := (numerator.log2 : Int) - (denominator.log2 : Int) - 53
  let (scaledNumerator, scaledDenominator) := inUnitsOf guess numerator denominator
  let exact := if scaledNumerator / scaledDenominator < significandBound then guess else guess + 1
  max minExponent exact

/-- The number nearest to `numerator / denominator`, with the given sign. -/
def ofRatio (negative : Bool) (numerator denominator : Nat) : Binary64 :=
  if numerator = 0 then .finite negative 0 minExponent
  else
    let exponent := exponentOf numerator denominator
    let (scaledNumerator, scaledDenominator) := inUnitsOf exponent numerator denominator
    let significand := roundHalfEven scaledNumerator scaledDenominator
    let (significand, exponent) :=
      if significand = significandBound then (hiddenBit, exponent + 1) else (significand, exponent)
    if maxExponent < exponent then .infinite negative else .finite negative significand exponent

/-- The number nearest to `digits * 10 ^ exponent`, with the given sign.  A decimal of more than
400 places before the point is infinite, and one that starts 400 places after it is zero, so that
no large power is computed for them. -/
def ofDecimal (negative : Bool) (digits : Nat) (exponent : Int) : Binary64 :=
  let places : Int := (Nat.toDigits 10 digits).length + exponent
  if digits = 0 ∨ places < -400 then .finite negative 0 minExponent
  else if 400 < places then .infinite negative
  else ofRatio negative (digits * Nat.pow 10 exponent.toNat) (Nat.pow 10 (-exponent).toNat)

end CompileWatch.Binary64
