/-
This file defines the numbers of the binary format with 53 significant bits and reads decimals into
them. Every finite one is a natural significand times a power of two, so all arithmetic here is exact
arithmetic on natural numbers, and reading rounds once, to the nearest with a tie to the even one.
-/
import ApiDoc.Text.Basic

namespace ApiDoc

/-- A double is `± significand * 2 ^ exponent`, an infinity, or no number. Of the finite ones those
are in use whose significand has 53 bits, or fewer with the least exponent. -/
inductive Double where
  | nan
  | infinity (negative : Bool)
  | finite (negative : Bool) (significand : Nat) (exponent : Int)
  deriving DecidableEq, Repr, Inhabited

namespace Double

/-- The least exponent of a finite double. -/
def leastExponent : Int := -1074

/-- The greatest exponent of a finite double. -/
def greatestExponent : Int := 971

/-- A double that is finite. -/
def isFinite : Double → Bool
  | .finite .. => true
  | _ => false

/-- The quotient of `numerator` by `denominator`, rounded to the nearest with a tie to the even one. -/
def roundQuotient (numerator denominator : Nat) : Nat :=
  let quotient := numerator / denominator
  let twice := 2 * (numerator % denominator)
  if denominator < twice || (denominator == twice && quotient % 2 == 1) then quotient + 1
  else quotient

/-- `numerator / (denominator * 2 ^ exponent)` as a fraction. -/
def scaled (numerator denominator : Nat) (exponent : Int) : Nat × Nat :=
  (numerator * Nat.pow 2 (-exponent).toNat, denominator * Nat.pow 2 exponent.toNat)

/-- The exponent of the double that is nearest to a positive fraction, before rounding. -/
def exponentOf (numerator denominator : Nat) : Int :=
  let guess := max leastExponent ((numerator.log2 : Int) - denominator.log2 - 53)
  let (above, below) := scaled numerator denominator guess
  if Nat.pow 2 53 ≤ above / below then guess + 1 else guess

/-- The double nearest to a fraction. -/
def nearestFraction (negative : Bool) (numerator denominator : Nat) : Double :=
  if numerator = 0 then .finite negative 0 leastExponent
  else
    let exponent := exponentOf numerator denominator
    let (above, below) := scaled numerator denominator exponent
    let significand := roundQuotient above below
    let (significand, exponent) :=
      if significand = Nat.pow 2 53 then (Nat.pow 2 52, exponent + 1) else (significand, exponent)
    if greatestExponent < exponent then .infinity negative
    else .finite negative significand exponent

/-- The double nearest to `digits * 10 ^ power`, where `length` is the number of the digits. Beyond
four hundred places the outcome is certain without any arithmetic. -/
def nearestDecimal (negative : Bool) (digits length : Nat) (power : Int) : Double :=
  if digits = 0 then .finite negative 0 leastExponent
  else if 400 < (digits.log2 : Int) / 4 + power then .infinity negative
  else if (length : Int) + power < -400 then .finite negative 0 leastExponent
  else nearestFraction negative (digits * Nat.pow 10 power.toNat) (Nat.pow 10 (-power).toNat)

/-- The integer part of a finite double. -/
def truncate? : Double → Option Int
  | .finite negative significand exponent =>
    let magnitude := significand * Nat.pow 2 exponent.toNat / Nat.pow 2 (-exponent).toNat
    some (if negative then -(magnitude : Int) else magnitude)
  | _ => none

/-- The integer that a finite double without a fractional part is. -/
def toInt? : Double → Option Int
  | .finite negative significand exponent =>
    if significand * Nat.pow 2 exponent.toNat % Nat.pow 2 (-exponent).toNat = 0 then
      (Double.finite negative significand exponent).truncate?
    else none
  | _ => none

end Double

end ApiDoc
