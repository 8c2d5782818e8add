import ShapeMatch.Binary64

/-!
# Rounding to Binary64

The number nearest to a quotient of two natural numbers.

The magnitudes representable around a quotient are the multiples of one power
of two: of `2 ^ (l - 52)` where `2 ^ l` is the highest power of two that the
quotient reaches, but never of less than `2 ^ -1074`. Rounding divides by that
power, takes the nearest whole number and gives a half to the even neighbour.

The exponent and the rounded whole number then add up to the bit pattern, with
one formula for all sizes. A whole number that rounding has carried up to the
next power of two runs over into the exponent field, where it belongs, and a
magnitude beyond the greatest finite one ends at the pattern of infinity.

## Main definitions

* `roundHalfEven`: The nearest whole number to a quotient, a half to even.
* `floorLog2`: The highest power of two that a quotient reaches.
* `Binary64.nearest`: The number nearest to a signed quotient.
* `Binary64.ofInt64`: The number nearest to an integer.
-/

namespace ShapeMatch

/-- The whole number nearest to `num / den`. A half goes to the even
    neighbour. -/
def roundHalfEven (num den : Nat) : Nat :=
  let quotient := num / den
  let twice := 2 * (num % den)
  if den < twice || (twice = den && quotient % 2 = 1) then quotient + 1 else quotient

/-- The greatest `l` with `2 ^ l ≤ num / den`, for positive arguments. -/
def floorLog2 (num den : Nat) : Int :=
  let guess : Int := (num.log2 : Int) - (den.log2 : Int)
  let reached :=
    if 0 ≤ guess then den * Nat.pow 2 guess.toNat ≤ num
    else den ≤ num * Nat.pow 2 (-guess).toNat
  if reached then guess else guess - 1

namespace Binary64

/-- The pattern of the magnitude nearest to `num / den`, for positive
    arguments. -/
def nearestMagnitude (num den : Nat) : Nat :=
  let exponent := max (floorLog2 num den - 52) (-1074)
  let scaled :=
    if 0 ≤ exponent then roundHalfEven num (den * Nat.pow 2 exponent.toNat)
    else roundHalfEven (num * Nat.pow 2 (-exponent).toNat) den
  min ((exponent + 1074).toNat * leadingBit + scaled) infinityBits

/-- The number with a sign and the pattern of a magnitude. -/
def ofMagnitude (negative : Bool) (magnitude : Nat) : Binary64 :=
  ⟨UInt64.ofNat ((if negative then signBit else 0) + magnitude)⟩

/-- The infinity of a sign. -/
def infinity (negative : Bool) : Binary64 := ofMagnitude negative infinityBits

/-- The number nearest to `num / den`, with the given sign. The denominator is
    positive. -/
def nearest (negative : Bool) (num den : Nat) : Binary64 :=
  ofMagnitude negative (if num = 0 then 0 else nearestMagnitude num den)

/-- The number nearest to an integer. -/
def ofInt64 (i : Int64) : Binary64 := nearest (i.toInt < 0) i.toInt.natAbs 1

end Binary64

end ShapeMatch
