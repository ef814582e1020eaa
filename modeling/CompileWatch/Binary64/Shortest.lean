import CompileWatch.Binary64.Basic

/-!
# The shortest decimal

A floating point number is written with the fewest decimal digits that read back
as the same number, and among those with the ones nearest to it, a tie going up.
The digits are laid out around a point, never with an exponent, so that a whole
number has no point at all.  Zero keeps its sign, and an infinity is `inf`.

The reals that read back as one number form an interval around it, whose ends
belong to it when the significand is even.  On the grid of decimals with a given
number of digits, if a point lies in that interval, so does one of the two
neighbours of the number itself; hence it is enough to try those two for one
digit, two digits and so on.
-/

namespace CompileWatch.Binary64

/-- A positive number with the interval of reals that read back as it, all three as multiples of
`1 / denominator`. -/
structure Interval where
  low : Nat
  value : Nat
  high : Nat
  denominator : Nat
  /-- Whether the two ends belong to the interval. -/
  closed : Bool
  deriving Repr

/-- The interval of a positive number.  The gap below a power of two is half the gap above it. -/
def interval (significand : Nat) (exponent : Int) : Interval :=
  let gapBelow := if significand = hiddenBit ∧ minExponent < exponent then 1 else 2
  let unit := Nat.pow 2 (exponent - 2).toNat
  { low := (4 * significand - gapBelow) * unit
    value := 4 * significand * unit
    high := (4 * significand + 2) * unit
    denominator := Nat.pow 2 (2 - exponent).toNat
    closed := significand % 2 = 0 }

namespace Interval

/-- Whether `digits * 10 ^ power` lies in the interval. -/
def contains (around : Interval) (digits : Nat) (power : Int) : Bool :=
  let point := digits * Nat.pow 10 power.toNat * around.denominator
  let low := around.low * Nat.pow 10 (-power).toNat
  let high := around.high * Nat.pow 10 (-power).toNat
  (low < point && point < high) || (around.closed && (point == low || point == high))

/-- The power of ten at the first digit of the value.  The least positive number starts before the
400th place after the point, so the whole part of the value times `10 ^ 400` has that digit. -/
def leadingPower (around : Interval) : Int :=
  (Nat.toDigits 10 (around.value * Nat.pow 10 400 / around.denominator)).length - 401

/-- The point of the interval on the grid `10 ^ power` that is nearest to the value. -/
def nearest? (around : Interval) (power : Int) : Option Nat :=
  let numerator := around.value * Nat.pow 10 (-power).toNat
  let denominator := around.denominator * Nat.pow 10 power.toNat
  let below := numerator / denominator
  let remainder := numerator % denominator
  match around.contains below power, around.contains (below + 1) power with
  | true, true => some (if 2 * remainder < denominator then below else below + 1)
  | true, false => some below
  | false, true => some (below + 1)
  | false, false => none

/-- The first hit on the grids of `count`, `count + 1`, … digits, as digits and a power of ten.
Seventeen digits always suffice. -/
def shortestFrom (around : Interval) : Nat → Nat → Nat × Int
  | 0, _ => (0, 0)
  | attempts + 1, count =>
    let power := around.leadingPower - count + 1
    match around.nearest? power with
    | some digits => (digits, power)
    | none => around.shortestFrom attempts (count + 1)

/-- The fewest digits that read back as the value, with their power of ten. -/
def shortest (around : Interval) : Nat × Int :=
  around.shortestFrom 17 1

end Interval

/-- The digits of `digits * 10 ^ power`, laid out around a point; zeros that end the fraction are
left out, and the point with them if no fraction remains. -/
def layout (digits : Nat) (power : Int) : List Char :=
  let written := Nat.toDigits 10 digits
  if 0 ≤ power then written ++ List.replicate power.toNat '0'
  else
    let places := (-power).toNat
    let padded := List.replicate (places + 1 - written.length) '0' ++ written
    let fraction := padded.drop (padded.length - places)
    let kept := (fraction.reverse.dropWhile (· = '0')).reverse
    padded.take (padded.length - places) ++ (if kept = [] then [] else '.' :: kept)

def text : Binary64 → List Char
  | .infinite negative => (if negative then ['-'] else []) ++ ['i', 'n', 'f']
  | .finite negative significand exponent =>
    let (digits, power) :=
      if significand = 0 then (0, 0) else (interval significand exponent).shortest
    (if negative then ['-'] else []) ++ layout digits power

end CompileWatch.Binary64
