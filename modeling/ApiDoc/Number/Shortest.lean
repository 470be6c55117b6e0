/-
This file writes a double with the fewest digits that read back. The reals that round to a finite
double form an interval, which contains its ends if the significand is even. For one digit, two
digits and so on, the two neighbours of the double on the decimal grid with that many digits are
tried: the first grid with a neighbour inside the interval is taken, and of two such neighbours the
nearer.
-/
import ApiDoc.Number.Double

namespace ApiDoc

namespace Double

/-- The double and the ends of its interval, as integers over one common denominator. -/
structure Interval where
  low : Nat
  value : Nat
  high : Nat
  denominator : Nat
  closed : Bool
  deriving Repr

/-- The interval of the reals that round to `significand * 2 ^ exponent`. The gap below a power of
two is half as wide as the one above. -/
def intervalOf (significand : Nat) (exponent : Int) : Interval :=
  let scale := Nat.pow 2 (exponent - 2).toNat
  let below := if significand = Nat.pow 2 52 ∧ leastExponent < exponent then 1 else 2
  { low := (4 * significand - below) * scale
    value := 4 * significand * scale
    high := (4 * significand + 2) * scale
    denominator := Nat.pow 2 (2 - exponent).toNat
    closed := significand % 2 = 0 }

namespace Interval

/-- The number `digits * 10 ^ power` rounds to the double of the interval. -/
def holds (interval : Interval) (digits : Nat) (power : Int) : Bool :=
  let candidate := digits * Nat.pow 10 power.toNat * interval.denominator
  let unit := Nat.pow 10 (-power).toNat
  if interval.closed then interval.low * unit ≤ candidate && candidate ≤ interval.high * unit
  else interval.low * unit < candidate && candidate < interval.high * unit

/-- The neighbour below of the value on the grid of multiples of `10 ^ power`. -/
def floorAt (interval : Interval) (power : Int) : Nat :=
  interval.value * Nat.pow 10 (-power).toNat / (interval.denominator * Nat.pow 10 power.toNat)

/-- Of the two neighbours on a grid the upper one is nearer, or as near and even. -/
def prefersUpper (interval : Interval) (power : Int) : Bool :=
  let value := 2 * interval.value * Nat.pow 10 (-power).toNat
  let floor := interval.floorAt power
  let middle := (2 * floor + 1) * Nat.pow 10 power.toNat * interval.denominator
  middle < value || (middle == value && floor % 2 == 1)

/-- The neighbour on a grid that reads back, the nearer one if both do. -/
def onGrid? (interval : Interval) (power : Int) : Option Nat :=
  let floor := interval.floorAt power
  match interval.holds floor power, interval.holds (floor + 1) power with
  | true, true => some (if interval.prefersUpper power then floor + 1 else floor)
  | true, false => some floor
  | false, true => some (floor + 1)
  | false, false => none

/-- The digits and the power of the first grid that has a number which reads back, trying grids from
`power` downwards. -/
def shortestFrom (interval : Interval) : Nat → Int → Nat × Int
  | 0, power => (interval.floorAt power, power)
  | tries + 1, power => match interval.onGrid? power with
    | some digits => (digits, power)
    | none => shortestFrom interval tries (power - 1)

end Interval

/-- An integer `k` with `value < 10 ^ k`, and close to the least one. -/
def decimalBound (interval : Interval) : Int :=
  let bits := (interval.value.log2 : Int) - interval.denominator.log2
  -- 1233 / 4096 is just below the logarithm of two
  bits * 1233 / 4096 + 2

/-- The number without the zeros at its end, and how many they were; `tries` bounds them. -/
def dropZeros : Nat → Nat → Int → Nat × Int
  | 0, digits, power => (digits, power)
  | tries + 1, digits, power =>
    if digits ≠ 0 ∧ digits % 10 = 0 then dropZeros tries (digits / 10) (power + 1)
    else (digits, power)

/-- The digits and the power of ten of the shortest decimal that reads back as a positive double. -/
def shortest (significand : Nat) (exponent : Int) : Nat × Int :=
  let interval := intervalOf significand exponent
  let (digits, power) := interval.shortestFrom 21 (decimalBound interval)
  dropZeros 20 digits power

/-- The text of a number of a given sign: positional notation with at least one place after the point
if the first digit stands for a power of ten from -4 to 15, else one digit before the point and an
exponent of at least two digits. -/
def writeDecimal (negative : Bool) (digits : Nat) (power : Int) : Text :=
  let sign : Text := if negative then "-" else ""
  let written := Text.ofNat digits
  let leading := power + written.length - 1
  if leading < -4 ∨ 16 ≤ leading then
    let places := written.drop 1
    let fraction : Text := if places.isEmpty then [] else .char '.' :: places
    let size := Text.ofNat leading.natAbs
    let padded : Text := if size.length < 2 then .char '0' :: size else size
    Text.ofPieces
      [sign, written.take 1, fraction, "e", if leading < 0 then "-" else "+", padded]
  else if 0 ≤ power then
    Text.ofPieces [sign, written, List.replicate power.toNat (.char '0'), ".0"]
  else if leading < 0 then
    Text.ofPieces [sign, "0.", List.replicate (-leading - 1).toNat (.char '0'), written]
  else
    let whole := leading.toNat + 1
    Text.ofPieces [sign, written.take whole, ".", written.drop whole]

/-- The text of a double. -/
def write : Double → Text
  | .nan => "nan"
  | .infinity negative => if negative then "-inf" else "inf"
  | .finite negative significand exponent =>
    if significand = 0 then if negative then "-0.0" else "0.0"
    else
      let (digits, power) := shortest significand exponent
      writeDecimal negative digits power

end Double

end ApiDoc
