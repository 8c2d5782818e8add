import Mathlib.Algebra.Order.Field.Rat
import Mathlib.Data.Rat.Cast.CharZero
import Mathlib.Tactic.FieldSimp
import Mathlib.Tactic.Ring
import ShapeMatch.Proofs.DeepEquality

/-!
# Numbers as Rationals

The rational number that a binary64 pattern denotes, and what it means for the
comparison of integers with floating-point numbers.

`ExactNumbers` counts numbers in units of the least subnormal one, so that
nothing there needs fractions. Here the number is the one that the standard
gives for the fields of the pattern: a sign, a fraction below 2 with its bits
behind the point, and a power of two. Counting in units is this number times
`unitsPerOne`, subnormal or not, so whatever is known about units is known about
rationals.

The comparison with an integer tests three things before it casts the number to
an integer. Only for the numbers that pass these tests does the cast matter, and
these are just the numbers that it does not change.

## Main definitions

* `Binary64.magnitude`, `Binary64.toRat`: The rational number of a finite
  pattern, without its sign and with it.
* `Binary64.fitsInt64`: The tests that come before the cast.

## Theorems

* `signedUnits_eq_toRat`: Units are a multiple of the rational number.
* `equalsInt_iff_toRat`: Equality with an integer is equality of rationals.
* `same_iff_toRat`: So is equality of finite numbers.
* `fitsInt64_iff`: The cast is asked where it is exact, and nowhere else.
* `Value.deepEqual_int_float`: All of it, for dynamic values.
-/

namespace ShapeMatch

namespace Binary64

/-- The magnitude that the fields of a finite pattern stand for. Normal numbers
    have a leading bit before the point that is not stored, and subnormal numbers
    have the power of two of the least normal one. -/
def magnitude (x : Binary64) : ℚ :=
  if x.exponentField = 0 then x.fractionField / 2 ^ 52 * 2 ^ (-1022 : ℤ)
  else (1 + x.fractionField / 2 ^ 52) * 2 ^ ((x.exponentField : ℤ) - 1023)

/-- The number that a finite pattern denotes. -/
def toRat (x : Binary64) : ℚ := if x.isNegative then -x.magnitude else x.magnitude

/-- Whether the number is a 64-bit integer, decided without a cast. -/
def fitsInt64 (x : Binary64) : Bool := x.isIntegral && leastInt64.le x && x.lt int64Limit

/-- The comparison with an integer casts only what has passed the tests before. -/
theorem equalsInt_eq (x : Binary64) (i : Int64) :
    x.equalsInt i = if x.fitsInt64 then x.toInt64 == i else false := by
  unfold equalsInt fitsInt64
  cases x.isIntegral && leastInt64.le x && x.lt int64Limit with
  | true => rfl
  | false => rfl

theorem cast_pow_two (n : Nat) : ((Nat.pow 2 n : Nat) : ℚ) = 2 ^ (n : ℤ) := by
  rw [zpow_natCast]
  exact Nat.cast_pow 2 n

theorem cast_unitsPerOne : (unitsPerOne : ℚ) = 2 ^ (finestExponent : ℤ) := by
  unfold unitsPerOne
  exact cast_pow_two finestExponent

theorem cast_unitsPerOne_pos : (0 : ℚ) < unitsPerOne := Nat.cast_pos.mpr unitsPerOne_pos

theorem cast_unitsPerOne_ne_zero : (unitsPerOne : ℚ) ≠ 0 := cast_unitsPerOne_pos.ne'

theorem cast_leadingBit : (leadingBit : ℚ) = 2 ^ (52 : ℤ) := by norm_num [leadingBit]

theorem unitsOf_magnitudeBits_eq_magnitude (x : Binary64) :
    (unitsOf x.magnitudeBits : ℚ) = x.magnitude * unitsPerOne := by
  have htwo : (2 : ℚ) ≠ 0 := two_ne_zero
  have hfinest : finestExponent = 1074 := rfl
  have hplaces : (2 : ℚ) ^ (52 : ℤ) = 2 ^ 52 := zpow_natCast 2 52
  unfold unitsOf magnitude exponentField fractionField
  generalize x.magnitudeBits / leadingBit = e, x.magnitudeBits % leadingBit = f
  -- In both cases the power of the units makes up for the bias of the exponent and
  -- for the 52 places of the fraction.
  by_cases hsub : e = 0
  · have hexp : (52 : ℤ) = -1022 + (finestExponent : ℤ) := by omega
    rw [if_pos hsub, if_pos hsub, cast_unitsPerOne, mul_assoc, ← zpow_add₀ htwo, ← hexp, hplaces]
    field_simp
  · have hexp : (52 : ℤ) + (e - 1 : Nat) = (e : ℤ) - 1023 + (finestExponent : ℤ) := by omega
    rw [if_neg hsub, if_neg hsub, cast_unitsPerOne, mul_assoc, ← zpow_add₀ htwo, ← hexp, zpow_add₀ htwo,
      Nat.cast_mul, Nat.cast_add, cast_pow_two, cast_leadingBit, hplaces]
    field_simp

/-- Counted in units, a number is its rational number times the units of 1. -/
theorem signedUnits_eq_toRat (x : Binary64) : (x.signedUnits : ℚ) = x.toRat * unitsPerOne := by
  have hmagnitude := x.unitsOf_magnitudeBits_eq_magnitude
  unfold signedUnits toRat
  by_cases hs : x.isNegative = true
  · rw [if_pos hs, if_pos hs, Int.cast_neg, Int.cast_natCast, hmagnitude, neg_mul]
  · rw [if_neg hs, if_neg hs, Int.cast_natCast, hmagnitude]

/-- A number equals an integer iff it is finite and denotes that integer. -/
theorem equalsInt_iff_toRat {x : Binary64} {i : Int64} :
    x.equalsInt i = true ↔ x.isFinite = true ∧ x.toRat = i.toInt := by
  have hcast : ((x.signedUnits : ℤ) : ℚ) = ((i.toInt * unitsPerOne : ℤ) : ℚ) ↔
      x.signedUnits = i.toInt * unitsPerOne := Int.cast_inj
  rw [equalsInt_iff, ← hcast, signedUnits_eq_toRat, Int.cast_mul, Int.cast_natCast,
    mul_left_inj' cast_unitsPerOne_ne_zero]

/-- Finite numbers are the same iff they denote the same rational number. -/
theorem same_iff_toRat {x y : Binary64} (hx : x.isFinite = true) (hy : y.isFinite = true) :
    x.same y = true ↔ x.toRat = y.toRat := by
  have hcast : (x.signedUnits : ℚ) = y.signedUnits ↔ x.signedUnits = y.signedUnits := Int.cast_inj
  rw [same_iff_signedUnits_eq hx hy, ← hcast, signedUnits_eq_toRat, signedUnits_eq_toRat,
    mul_left_inj' cast_unitsPerOne_ne_zero]

/-- The numbers that pass the tests before the cast are those that the cast does
    not change. -/
theorem fitsInt64_iff {x : Binary64} :
    x.fitsInt64 = true ↔ x.isFinite = true ∧ (x.toInt64.toInt : ℚ) = x.toRat := by
  -- What fits is equal to its own cast.
  have hself : x.fitsInt64 = x.equalsInt x.toInt64 := by
    rw [equalsInt_eq, beq_self_eq_true]
    cases x.fitsInt64 with
    | true => rfl
    | false => rfl
  rw [hself, equalsInt_iff_toRat]
  exact and_congr_right fun _ => eq_comm

end Binary64

namespace Value

/-- An integer and a floating-point number are equal, in either order, iff the
    number is finite and denotes the integer exactly. The comparison asks the cast
    of the number to an integer just where the cast denotes the number itself. -/
theorem deepEqual_int_float (i : Int64) (x : Binary64) :
    ((int i).deepEqual (float x) = true ↔ x.isFinite = true ∧ x.toRat = i.toInt) ∧
    ((float x).deepEqual (int i) = true ↔ x.isFinite = true ∧ x.toRat = i.toInt) ∧
    x.equalsInt i = (if x.fitsInt64 then x.toInt64 == i else false) ∧
    (x.fitsInt64 = true ↔ x.isFinite = true ∧ (x.toInt64.toInt : ℚ) = x.toRat) := by
  have hforth : (int i).deepEqual (float x) = x.equalsInt i := by rw [deepEqual]
  have hback : (float x).deepEqual (int i) = x.equalsInt i := by rw [deepEqual]
  rw [hforth, hback]
  exact ⟨Binary64.equalsInt_iff_toRat, Binary64.equalsInt_iff_toRat, x.equalsInt_eq i,
    Binary64.fitsInt64_iff⟩

-- No number is 2 ^ 53 + 1 or the greatest integer, but the least integer is one.
example : (int 9007199254740993).deepEqual (float ⟨0x4340000000000000⟩) = false ∧
    (int 9223372036854775807).deepEqual (float ⟨0x43E0000000000000⟩) = false ∧
    (int (-9223372036854775808)).deepEqual (float ⟨0xC3E0000000000000⟩) = true :=
  ⟨rfl, rfl, rfl⟩

end Value

end ShapeMatch
