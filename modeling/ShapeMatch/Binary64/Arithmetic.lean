import ShapeMatch.Binary64.Rounding

/-!
# Arithmetic of Binary64 Numbers

Products and quotients of finite numbers, rounded to the nearest number, and
scaling by powers of ten.

A finite magnitude is a quotient of two natural numbers, one of which is a
power of two. Products and quotients of such quotients are exact, so that each
operation rounds once.

No power of ten beyond `1e308` is a finite number. Division by a greater one is
done in turns, each of which rounds. It stops early where zero is reached.

## Main definitions

* `Binary64.numerator`, `Binary64.denominator`: A finite magnitude as a
  quotient.
* `Binary64.mul`, `Binary64.div`: Product and quotient.
* `Binary64.mulPowerOfTen`, `Binary64.divPowerOfTen`: Scaling.

## Theorems

* `denominator_pos`: No magnitude is a quotient by zero.
-/

namespace ShapeMatch

namespace Binary64

/-- The numerator of the magnitude of a finite number. -/
def numerator (x : Binary64) : Nat := x.significand * Nat.pow 2 x.exponent.toNat

/-- The denominator of the magnitude of a finite number. -/
def denominator (x : Binary64) : Nat := Nat.pow 2 (-x.exponent).toNat

theorem denominator_pos (x : Binary64) : 0 < x.denominator := Nat.pow_pos (by decide)

/-- The product of two finite numbers, rounded. -/
def mul (x y : Binary64) : Binary64 :=
  nearest (x.isNegative != y.isNegative) (x.numerator * y.numerator)
    (x.denominator * y.denominator)

/-- The quotient of two finite numbers, rounded. The divisor is not zero. -/
def div (x y : Binary64) : Binary64 :=
  nearest (x.isNegative != y.isNegative) (x.numerator * y.denominator)
    (x.denominator * y.numerator)

/-- The greatest power of ten that is finite. -/
def greatestPower : Nat := 308

/-- The number nearest to a power of ten. -/
def powerOfTen (n : Nat) : Binary64 := nearest false (Nat.pow 10 n) 1

/-- A finite number times a power of ten. Zero stays zero, and a power out of
    range makes all others infinite. -/
def mulPowerOfTen (x : Binary64) (n : Nat) : Binary64 :=
  if n ≤ greatestPower then x.mul (powerOfTen n)
  else if x.isZero then x
  else infinity x.isNegative

/-- A finite number divided by a power of ten, in turns if the power is out of
    range. -/
def divPowerOfTen (x : Binary64) (n : Nat) : Binary64 :=
  if n ≤ greatestPower then x.div (powerOfTen n)
  else if x.isZero then x
  else divPowerOfTen (x.div (powerOfTen greatestPower)) (n - greatestPower)
termination_by n
decreasing_by simp only [greatestPower] at *; omega

end Binary64

end ShapeMatch
