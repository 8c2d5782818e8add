/-!
# Binary64 Numbers

The 64-bit binary floating-point numbers of IEEE 754, as words.

A number is its bit pattern: a sign, an exponent field of 11 bits and a
fraction field of 52. Every finite one is a whole number, its `significand`,
times a power of two, and everything here is computed from those two in exact
integer arithmetic. No floating-point operation of the machine takes part.

Without the sign bit, the order of the patterns is the order of the
magnitudes, from zero over the subnormal numbers up to infinity. So two
numbers compare as their signed patterns do, and `orderKey?` is all that a
comparison looks at: it sends both zeros to 0 and no NaN anywhere.

Whether a number equals a 64-bit integer is decided without rounding. A
number with a fraction, or outside the range of the integers, equals none of
them; for the others truncation is exact.

## Main definitions

* `Binary64`: A number, given by its bits.
* `Binary64.significand`, `Binary64.exponent`: A finite magnitude is
  `significand * 2 ^ exponent`.
* `Binary64.orderKey?`: A whole number in the order of the numbers.
* `Binary64.same`: Numerical equality, except that all NaNs are the same.
* `Binary64.equalsInt`: Exact equality with an integer.

## Theorems

* `same_refl`, `same_symm`, `same_trans`: Sameness is an equivalence.
-/

namespace ShapeMatch

/-- A binary64 number. -/
structure Binary64 where
  /-- Sign, exponent field and fraction field, from the highest bit down. -/
  bits : UInt64
  deriving DecidableEq, Inhabited

namespace Binary64

/-- The pattern with the sign bit alone, one more than the greatest magnitude. -/
def signBit : Nat := 0x8000000000000000

/-- The lowest bit of the exponent field, one more than the greatest fraction.
    It stands for the leading bit of a normal number, which is not stored. -/
def leadingBit : Nat := 0x10000000000000

/-- Whether the sign bit is set. -/
def isNegative (x : Binary64) : Bool := signBit ≤ x.bits.toNat

/-- The pattern without the sign bit. -/
def magnitudeBits (x : Binary64) : Nat := x.bits.toNat % signBit

/-- The eleven bits of the exponent. -/
def exponentField (x : Binary64) : Nat := x.magnitudeBits / leadingBit

/-- The 52 bits of the fraction. -/
def fractionField (x : Binary64) : Nat := x.magnitudeBits % leadingBit

/-- The pattern of infinity, the least that is not of a finite number. -/
def infinityBits : Nat := 2047 * leadingBit

/-- Whether the pattern is not a number. -/
def isNaN (x : Binary64) : Bool := infinityBits < x.magnitudeBits

/-- Whether the number is one of the two infinities. -/
def isInfinite (x : Binary64) : Bool := x.magnitudeBits = infinityBits

/-- Whether the number is neither infinite nor a NaN. -/
def isFinite (x : Binary64) : Bool := x.magnitudeBits < infinityBits

/-- Whether the number is one of the two zeros. -/
def isZero (x : Binary64) : Bool := x.magnitudeBits = 0

/-- The whole number in the magnitude of a finite number, with the leading bit
    of a normal one. -/
def significand (x : Binary64) : Nat :=
  if x.exponentField = 0 then x.fractionField else leadingBit + x.fractionField

/-- The power of two in the magnitude of a finite number. -/
def exponent (x : Binary64) : Int := (max x.exponentField 1 : Nat) - 1075

/-- A whole number that grows with the number, the same for both zeros, and
    none for a NaN. -/
def orderKey? (x : Binary64) : Option Int :=
  if x.isNaN then none
  else if x.isNegative then some (-x.magnitudeBits)
  else some x.magnitudeBits

/-- Numerical equality, except that every NaN is the same as every NaN. -/
def same (x y : Binary64) : Bool := x.orderKey? = y.orderKey?

/-- Whether `x` is less than `y`. A NaN is neither less nor greater. -/
def lt (x y : Binary64) : Bool :=
  match x.orderKey?, y.orderKey? with
  | some a, some b => a < b
  | _, _ => false

/-- Whether `x` is less than `y` or equal to it. False of a NaN. -/
def le (x y : Binary64) : Bool :=
  match x.orderKey?, y.orderKey? with
  | some a, some b => a ≤ b
  | _, _ => false

/-- The magnitude of a finite number without its fraction. -/
def truncatedMagnitude (x : Binary64) : Nat :=
  if 0 ≤ x.exponent then x.significand * Nat.pow 2 x.exponent.toNat
  else x.significand / Nat.pow 2 (-x.exponent).toNat

/-- Whether the number is finite and has no fraction. -/
def isIntegral (x : Binary64) : Bool :=
  x.isFinite && (0 ≤ x.exponent || x.significand % Nat.pow 2 (-x.exponent).toNat = 0)

/-- The integer next to the number in the direction of zero, or the end of the
    range of integers beyond which the number lies. A NaN becomes zero. -/
def toInt64 (x : Binary64) : Int64 :=
  if x.isNaN then 0
  else if x.isInfinite then (if x.isNegative then Int64.minValue else Int64.maxValue)
  else
    let n : Int := if x.isNegative then -x.truncatedMagnitude else x.truncatedMagnitude
    if n < Int64.minValue.toInt then Int64.minValue
    else if Int64.maxValue.toInt < n then Int64.maxValue
    else Int64.ofInt n

/-- The number `-2^63`, the least 64-bit integer. -/
def leastInt64 : Binary64 := ⟨0xC3E0000000000000⟩

/-- The number `2^63`, one more than the greatest 64-bit integer. -/
def int64Limit : Binary64 := ⟨0x43E0000000000000⟩

/-- Whether the number is exactly the integer `i`. Truncation is consulted
    only where it is exact. -/
def equalsInt (x : Binary64) (i : Int64) : Bool :=
  x.isIntegral && leastInt64.le x && x.lt int64Limit && x.toInt64 == i

theorem same_refl (x : Binary64) : x.same x = true := by simp [same]

theorem same_symm {x y : Binary64} (h : x.same y = true) : y.same x = true := by
  simp only [same, decide_eq_true_eq] at h ⊢
  exact h.symm

theorem same_trans {x y z : Binary64} (h : x.same y = true) (h' : y.same z = true) :
    x.same z = true := by
  simp only [same, decide_eq_true_eq] at h h' ⊢
  exact h.trans h'

end Binary64

end ShapeMatch
