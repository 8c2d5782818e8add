import Mathlib.Algebra.Group.Nat.Even
import Mathlib.Algebra.Order.Field.Power
import Mathlib.Algebra.Order.Group.Unbundled.Int
import Mathlib.Tactic.Linarith
import Mathlib.Tactic.Positivity
import ShapeMatch.Binary64.Rounding
import ShapeMatch.Proofs.Rationals

/-!
# Rounding is to the Nearest Number

A quotient is rounded to the binary64 number that is nearest to it, and to the one
with the even significand if two are equally near.

Rounding takes the nearest whole number of units in the last place. That is the
nearest one among the multiples of this unit, and what has to be shown is that no
other number is nearer. There are such numbers, since smaller numbers have finer
units. But the unit is chosen so that the quotient has its leading bit 52 places
above, so all numbers that are no multiples of the unit lie below that bit, and the
bit itself is a multiple that is nearer than they are.

The pattern is the sum of the exponent, shifted to its field, and of the rounded
whole number. It denotes that number of units even where rounding has carried, and
where the last place is the last one of all.

Signs do not matter. The distance of a number to a quotient is never less than that
of their magnitudes, and the same if they have one sign.

## Main definitions

* `NearestWhole`: A whole number nearest to a rational one, even if in the middle.
* `Binary64.roundedAt`, `Binary64.lastPlace`: The two parts of a rounded quotient.
* `Binary64.Rounds`: A number nearest to a rational one, even if in the middle.

## Theorems

* `nearestWhole_roundHalfEven`: Quotients are rounded to the nearest whole number.
* `floorLog2_bounds`: A quotient lies between two powers of two.
* `unitsOf_add`: The number of a sum of exponent and significand.
* `magnitude_multiple_or_lt`: Numbers that are no multiples of a unit are low.
* `nearest_rounds`: Quotients are rounded to the nearest binary64 number.
* `isFinite_nearest`: Quotients in range are rounded to finite numbers.
-/

namespace ShapeMatch

section Whole

/-- The whole number is nearest to the rational one, and it is even if another one
    is as near. -/
structure NearestWhole (m : Nat) (q : ℚ) : Prop where
  near : |(m : ℚ) - q| ≤ 1 / 2
  even : |(m : ℚ) - q| = 1 / 2 → Even m

-- Two whole numbers are apart by 1 at least, so another one is no nearer.
theorem NearestWhole.le_of_ne {m k : Nat} {q : ℚ} (h : NearestWhole m q) (hk : k ≠ m) :
    |(m : ℚ) - q| ≤ |(k : ℚ) - q| ∧ (|(k : ℚ) - q| = |(m : ℚ) - q| → Even m) := by
  have hapart : (1 : ℚ) ≤ |(k : ℚ) - m| := by
    have hint : 1 ≤ |(k : ℤ) - m| := Int.one_le_abs (by omega)
    exact_mod_cast hint
  have htriangle : |(k : ℚ) - m| ≤ |(k : ℚ) - q| + |(m : ℚ) - q| := by
    rw [abs_sub_comm (m : ℚ) q]
    exact abs_sub_le _ _ _
  have hnear := h.near
  exact ⟨by linarith, fun htie => h.even (by linarith)⟩

theorem NearestWhole.le {m n : Nat} {q : ℚ} (h : NearestWhole m q) (hq : q ≤ n) : m ≤ n := by
  have hbound := (abs_le.mp h.near).2
  have hlt : (m : ℚ) < ((n + 1 : Nat) : ℚ) := by
    rw [Nat.cast_succ]
    linarith
  exact Nat.lt_succ_iff.mp (Nat.cast_lt.mp hlt)

theorem NearestWhole.ge {m n : Nat} {q : ℚ} (h : NearestWhole m q) (hq : n ≤ q) : n ≤ m := by
  have hbound := (abs_le.mp h.near).1
  have hlt : (n : ℚ) < ((m + 1 : Nat) : ℚ) := by
    rw [Nat.cast_succ]
    linarith
  exact Nat.lt_succ_iff.mp (Nat.cast_lt.mp hlt)

theorem NearestWhole.eq {m n : Nat} (h : NearestWhole m n) : m = n :=
  le_antisymm (h.le le_rfl) (h.ge le_rfl)

/-- Quotients are rounded to the nearest whole number. -/
theorem nearestWhole_roundHalfEven (num : Nat) {den : Nat} (hden : den ≠ 0) :
    NearestWhole (roundHalfEven num den) (num / den) := by
  have hpos : (0 : ℚ) < den := Nat.cast_pos.mpr (Nat.pos_of_ne_zero hden)
  have hnum : (num : ℚ) = den * (num / den : Nat) + (num % den : Nat) := by
    exact_mod_cast (Nat.div_add_mod num den).symm
  have hmod : num % den < den := Nat.mod_lt num (Nat.pos_of_ne_zero hden)
  unfold roundHalfEven
  dsimp only
  rw [hnum, add_div, mul_div_cancel_left₀ _ hpos.ne']
  generalize num / den = q, num % den = r at hmod ⊢
  -- What is left over is compared with a half.
  have hle : (r : ℚ) / den ≤ 1 / 2 ↔ 2 * r ≤ den := by
    rw [div_le_div_iff₀ hpos two_pos, one_mul, mul_comm]
    norm_cast
  have hge : 1 / 2 ≤ (r : ℚ) / den ↔ den ≤ 2 * r := by
    rw [div_le_div_iff₀ two_pos hpos, one_mul, mul_comm (r : ℚ)]
    norm_cast
  have hnonneg : (0 : ℚ) ≤ (r : ℚ) / den := by positivity
  have hrest : (r : ℚ) / den < 1 := (div_lt_one hpos).mpr (Nat.cast_lt.mpr hmod)
  split
  · next hup =>
      rw [Bool.or_eq_true, Bool.and_eq_true, decide_eq_true_eq, decide_eq_true_eq,
        decide_eq_true_eq] at hup
      have hhalf := hge.mpr (by omega)
      have hdist : |((q + 1 : Nat) : ℚ) - (q + r / den)| = 1 - r / den := by
        rw [Nat.cast_succ, add_sub_add_left_eq_sub, abs_of_pos (by linarith)]
      refine ⟨by linarith, fun htie => ?_⟩
      have hexact := hle.mp (by linarith)
      exact Nat.even_add_one.mpr (Nat.not_even_iff_odd.mpr (Nat.odd_iff.mpr (by omega)))
  · next hkept =>
      rw [Bool.or_eq_true, Bool.and_eq_true, decide_eq_true_eq, decide_eq_true_eq,
        decide_eq_true_eq] at hkept
      have hhalf := hle.mpr (by omega)
      have hdist : |(q : ℚ) - (q + r / den)| = r / den := by
        rw [sub_add_cancel_left, abs_neg, abs_of_nonneg hnonneg]
      refine ⟨by linarith, fun htie => ?_⟩
      have hexact := hge.mp (by linarith)
      exact Nat.even_iff.mpr (by omega)

end Whole

section Powers

theorem zpow_two_pos (e : ℤ) : (0 : ℚ) < 2 ^ e := zpow_pos two_pos e

theorem cast_pow_toNat {e : ℤ} (h : 0 ≤ e) : ((Nat.pow 2 e.toNat : Nat) : ℚ) = 2 ^ e := by
  rw [Binary64.cast_pow_two, Int.toNat_of_nonneg h]

-- Which side of the comparison is scaled depends on the sign of the exponent.
theorem reached_iff {num den : Nat} (hden : den ≠ 0) (e : ℤ) :
    (if 0 ≤ e then den * Nat.pow 2 e.toNat ≤ num else den ≤ num * Nat.pow 2 (-e).toNat) ↔
      (2 : ℚ) ^ e ≤ num / den := by
  have hpos : (0 : ℚ) < den := Nat.cast_pos.mpr (Nat.pos_of_ne_zero hden)
  rw [le_div_iff₀ hpos]
  by_cases he : 0 ≤ e
  · rw [if_pos he, ← cast_pow_toNat he, mul_comm]
    norm_cast
  · have hcast : ((num * Nat.pow 2 (-e).toNat : Nat) : ℚ) = num * (2 ^ e)⁻¹ := by
      rw [Nat.cast_mul, cast_pow_toNat (by omega), zpow_neg]
    rw [if_neg he, ← Nat.cast_le (α := ℚ), hcast, le_mul_inv_iff₀ (zpow_two_pos e), mul_comm]

theorem zpow_log2_le {n : Nat} (h : n ≠ 0) : (2 : ℚ) ^ (n.log2 : ℤ) ≤ n := by
  rw [zpow_natCast]
  exact_mod_cast Nat.log2_self_le h

theorem lt_zpow_log2 (n : Nat) : (n : ℚ) < 2 ^ ((n.log2 : ℤ) + 1) := by
  have hnext : n < 2 ^ (n.log2 + 1) := Nat.lt_log2_self
  rw [← Nat.cast_succ, zpow_natCast]
  exact_mod_cast hnext

/-- The highest power of two that a quotient reaches, and the next one. -/
theorem floorLog2_bounds {num den : Nat} (hnum : num ≠ 0) (hden : den ≠ 0) :
    (2 : ℚ) ^ floorLog2 num den ≤ num / den ∧ (num : ℚ) / den < 2 ^ (floorLog2 num den + 1) := by
  have hpos : (0 : ℚ) < den := Nat.cast_pos.mpr (Nat.pos_of_ne_zero hden)
  -- The logarithms of the two numbers leave a choice of two powers.
  have hbelow : (2 : ℚ) ^ ((num.log2 : ℤ) - den.log2 - 1) ≤ num / den := by
    rw [sub_sub, zpow_sub₀ two_ne_zero]
    exact div_le_div₀ num.cast_nonneg (zpow_log2_le hnum) hpos (lt_zpow_log2 den).le
  have habove : (num : ℚ) / den < 2 ^ ((num.log2 : ℤ) - den.log2 + 1) := by
    rw [sub_add_eq_add_sub, zpow_sub₀ two_ne_zero]
    exact div_lt_div₀ (lt_zpow_log2 num) (zpow_log2_le hden) (zpow_two_pos _).le (zpow_two_pos _)
  unfold floorLog2
  dsimp only
  by_cases hreached : (2 : ℚ) ^ ((num.log2 : ℤ) - den.log2) ≤ num / den
  · rw [if_pos ((reached_iff hden _).mpr hreached)]
    exact ⟨hreached, habove⟩
  · rw [if_neg (mt (reached_iff hden _).mp hreached), sub_add_cancel]
    exact ⟨hbelow, not_le.mp hreached⟩

/-- The nearest multiple of a power of two is as near as any multiple, and nearer than
    what lies below one that is not above. -/
theorem NearestWhole.scaled {m : Nat} {q r : ℚ} {e : ℤ} (h : NearestWhole m (q / 2 ^ e))
    (hr : (∃ j : Nat, r = j * 2 ^ e) ∨ ∃ lead : Nat, r < lead * 2 ^ e ∧ lead * 2 ^ e ≤ q)
    (hne : r ≠ m * 2 ^ e) :
    |m * 2 ^ e - q| ≤ |r - q| ∧ (|r - q| = |m * 2 ^ e - q| → Even m) := by
  have hpos := zpow_two_pos e
  have hscale : ∀ n : ℚ, |n * 2 ^ e - q| = |n - q / 2 ^ e| * 2 ^ e := by
    intro n
    have hsplit : n * 2 ^ e - q = (n - q / 2 ^ e) * 2 ^ e := by
      rw [sub_mul, div_mul_cancel₀ q hpos.ne']
    rw [hsplit, abs_mul, abs_of_pos hpos]
  have hmultiple : ∀ j : Nat, j ≠ m → |m * 2 ^ e - q| ≤ |j * 2 ^ e - q| ∧
      (|j * 2 ^ e - q| = |m * 2 ^ e - q| → Even m) := by
    intro j hj
    rw [hscale, hscale]
    exact ⟨mul_le_mul_of_nonneg_right (h.le_of_ne hj).1 hpos.le,
      fun htie => (h.le_of_ne hj).2 (mul_right_cancel₀ hpos.ne' htie)⟩
  rcases hr with ⟨j, rfl⟩ | ⟨lead, hlt, hle⟩
  · exact hmultiple j fun hj => hne (hj ▸ rfl)
  · have hlead : |(m : ℚ) * 2 ^ e - q| ≤ |lead * 2 ^ e - q| := by
      by_cases hm : lead = m
      · rw [hm]
      · exact (hmultiple lead hm).1
    have hstrict : |lead * 2 ^ e - q| < |r - q| := by
      rw [abs_of_nonpos (by linarith), abs_of_nonpos (by linarith)]
      linarith
    exact ⟨(hlead.trans_lt hstrict).le, fun htie => absurd htie (hlead.trans_lt hstrict).ne'⟩

end Powers

namespace Binary64

section Places

/-- A quotient in units of a power of two, rounded to a whole number. -/
def roundedAt (num den : Nat) (e : ℤ) : Nat :=
  if 0 ≤ e then roundHalfEven num (den * Nat.pow 2 e.toNat)
  else roundHalfEven (num * Nat.pow 2 (-e).toNat) den

/-- The power of two of the last place of a rounded quotient. -/
def lastPlace (num den : Nat) : ℤ := max (floorLog2 num den - 52) (-1074)

theorem nearestMagnitude_eq (num den : Nat) :
    nearestMagnitude num den =
      min ((lastPlace num den + 1074).toNat * leadingBit + roundedAt num den (lastPlace num den))
        infinityBits :=
  rfl

theorem nearestWhole_roundedAt (num : Nat) {den : Nat} (hden : den ≠ 0) (e : ℤ) :
    NearestWhole (roundedAt num den e) (num / den / 2 ^ e) := by
  unfold roundedAt
  by_cases he : 0 ≤ e
  · have hscaled : ((den * Nat.pow 2 e.toNat : Nat) : ℚ) = den * 2 ^ e := by
      rw [Nat.cast_mul, cast_pow_toNat he]
    rw [if_pos he, div_div, ← hscaled]
    exact nearestWhole_roundHalfEven num (Nat.mul_ne_zero hden (pow_two_pos _).ne')
  · have hscaled : ((num * Nat.pow 2 (-e).toNat : Nat) : ℚ) = num / 2 ^ e := by
      rw [Nat.cast_mul, cast_pow_toNat (by omega), zpow_neg, div_eq_mul_inv]
    rw [if_neg he, div_right_comm, ← hscaled]
    exact nearestWhole_roundHalfEven _ hden

theorem roundedAt_le {num den : Nat} (hnum : num ≠ 0) (hden : den ≠ 0) :
    roundedAt num den (lastPlace num den) ≤ 2 * leadingBit := by
  refine (nearestWhole_roundedAt num hden _).le ?_
  have hplace : floorLog2 num den + 1 ≤ 53 + lastPlace num den := by
    unfold lastPlace
    omega
  rw [div_le_iff₀ (zpow_two_pos _), Nat.cast_mul, cast_leadingBit, Nat.cast_ofNat,
    ← zpow_one_add₀ two_ne_zero, ← zpow_add₀ two_ne_zero]
  exact (floorLog2_bounds hnum hden).2.le.trans (zpow_le_zpow_right₀ one_le_two hplace)

/-- Unless the last place is the last one of all, the leading bit is reached. -/
theorem zpow_lastPlace_le {num den : Nat} (hnum : num ≠ 0) (hden : den ≠ 0)
    (h : lastPlace num den ≠ -1074) :
    (leadingBit : ℚ) * 2 ^ lastPlace num den ≤ num / den := by
  have hplace : 52 + lastPlace num den = floorLog2 num den := by
    unfold lastPlace at h ⊢
    omega
  rw [cast_leadingBit, ← zpow_add₀ two_ne_zero, hplace]
  exact (floorLog2_bounds hnum hden).1

end Places

section Patterns

theorem unitsOf_normal (k : Nat) {f : Nat} (hf : f < leadingBit) :
    unitsOf ((k + 1) * leadingBit + f) = (leadingBit + f) * Nat.pow 2 k := by
  have hpos : 0 < leadingBit := by decide
  have hdiv : ((k + 1) * leadingBit + f) / leadingBit = k + 1 := by
    rw [Nat.add_comm, Nat.add_mul_div_right f _ hpos, Nat.div_eq_of_lt hf, Nat.zero_add]
  have hmod : ((k + 1) * leadingBit + f) % leadingBit = f := by
    rw [Nat.add_comm, Nat.add_mul_mod_self_right, Nat.mod_eq_of_lt hf]
  unfold unitsOf
  rw [hdiv, hmod, if_neg (Nat.succ_ne_zero k), Nat.add_sub_cancel]

/-- A sum of exponent and significand is a pattern of their product. The significand
    has its leading bit unless the exponent is the least one, and may have been
    carried. -/
theorem unitsOf_add {k m : Nat} (hlow : k = 0 ∨ leadingBit ≤ m) (hm : m ≤ 2 * leadingBit) :
    unitsOf (k * leadingBit + m) = m * Nat.pow 2 k := by
  by_cases hsub : m < leadingBit
  · have hk : k = 0 := hlow.resolve_right (by omega)
    have hone : Nat.pow 2 0 = 1 := rfl
    unfold unitsOf
    rw [hk, Nat.zero_mul, Nat.zero_add, Nat.div_eq_of_lt hsub, if_pos rfl, Nat.mod_eq_of_lt hsub,
      hone, Nat.mul_one]
  · by_cases hcarried : m = 2 * leadingBit
    · have hpattern : k * leadingBit + m = (k + 1 + 1) * leadingBit + 0 := by
        rw [hcarried, Nat.add_zero ((k + 1 + 1) * leadingBit), ← Nat.add_mul]
      have hnext : Nat.pow 2 (k + 1) = Nat.pow 2 k * 2 := pow_two_add k 1
      rw [hpattern, unitsOf_normal _ (by decide), hcarried, hnext, Nat.add_zero,
        Nat.mul_comm 2 leadingBit, Nat.mul_assoc, Nat.mul_comm 2]
    · have hpattern : k * leadingBit + m = (k + 1) * leadingBit + (m - leadingBit) := by
        rw [Nat.add_mul, Nat.one_mul, Nat.add_assoc, Nat.add_sub_cancel' (by omega)]
      rw [hpattern, unitsOf_normal _ (by omega), Nat.add_sub_cancel' (by omega)]

theorem unitsOf_multiple_or_lt (p k : Nat) :
    (∃ j, unitsOf p = j * Nat.pow 2 k) ∨ k ≠ 0 ∧ unitsOf p < leadingBit * Nat.pow 2 k := by
  by_cases hk : p / leadingBit ≤ k
  · by_cases hzero : k = 0
    · exact .inl ⟨unitsOf p, hzero ▸ (Nat.mul_one _).symm⟩
    · exact .inr ⟨hzero, (unitsOf_lt p).trans_le (Nat.mul_le_mul_left _ (pow_two_le hk))⟩
  · have hsplit : p / leadingBit - 1 = p / leadingBit - 1 - k + k := by omega
    refine .inl ⟨(leadingBit + p % leadingBit) * Nat.pow 2 (p / leadingBit - 1 - k), ?_⟩
    unfold unitsOf
    rw [if_neg (by omega), hsplit, pow_two_add, Nat.add_sub_cancel, Nat.mul_assoc]

-- The leading bit is even, and so is all that stands above it.
theorem even_significand_iff (x : Binary64) : Even x.significand ↔ Even x.magnitudeBits := by
  rw [Nat.even_iff, Nat.even_iff]
  unfold significand exponentField fractionField leadingBit
  split <;> omega

end Patterns

section Magnitudes

-- A power of two counts whole units from the least one on.
theorem cast_units (n : Nat) {e : ℤ} (he : -1074 ≤ e) :
    ((n * Nat.pow 2 (e + 1074).toNat : Nat) : ℚ) = n * 2 ^ e * unitsPerOne := by
  have hfinest : e + 1074 = e + finestExponent := rfl
  rw [Nat.cast_mul, cast_pow_toNat (by omega), cast_unitsPerOne, hfinest,
    zpow_add₀ two_ne_zero, mul_assoc]

theorem magnitude_eq_of_units {x : Binary64} {n : Nat} {e : ℤ} (he : -1074 ≤ e)
    (h : unitsOf x.magnitudeBits = n * Nat.pow 2 (e + 1074).toNat) : x.magnitude = n * 2 ^ e := by
  refine mul_right_cancel₀ cast_unitsPerOne_ne_zero ?_
  rw [← unitsOf_magnitudeBits_eq_magnitude, h, cast_units n he]

/-- Numbers that are no multiples of a power of two are below the normal numbers with
    this last place. -/
theorem magnitude_multiple_or_lt (x : Binary64) {e : ℤ} (he : -1074 ≤ e) :
    (∃ j : Nat, x.magnitude = j * 2 ^ e) ∨
      e ≠ -1074 ∧ x.magnitude < leadingBit * 2 ^ e := by
  rcases unitsOf_multiple_or_lt x.magnitudeBits (e + 1074).toNat with ⟨j, hj⟩ | ⟨hk, hlt⟩
  · exact .inl ⟨j, magnitude_eq_of_units he hj⟩
  · refine .inr ⟨by omega, lt_of_mul_lt_mul_right ?_ cast_unitsPerOne_pos.le⟩
    rw [← unitsOf_magnitudeBits_eq_magnitude, ← cast_units leadingBit he]
    exact Nat.cast_lt.mpr hlt

theorem magnitude_nonneg (x : Binary64) : 0 ≤ x.magnitude := by
  refine nonneg_of_mul_nonneg_left ?_ cast_unitsPerOne_pos
  rw [← unitsOf_magnitudeBits_eq_magnitude]
  exact Nat.cast_nonneg _

theorem abs_toRat (x : Binary64) : |x.toRat| = x.magnitude := by
  unfold toRat
  split
  · rw [abs_neg, abs_of_nonneg x.magnitude_nonneg]
  · exact abs_of_nonneg x.magnitude_nonneg

end Magnitudes

section Signs

theorem magnitudeBits_ofMagnitude {m : Nat} (negative : Bool) (h : m < signBit) :
    (ofMagnitude negative m).magnitudeBits = m := by
  have hsize : 2 * signBit = UInt64.size := rfl
  unfold magnitudeBits ofMagnitude
  cases negative with
  | false =>
      rw [if_neg Bool.false_ne_true, Nat.zero_add, UInt64.toNat_ofNat_of_lt' (by omega),
        Nat.mod_eq_of_lt h]
  | true =>
      rw [if_pos rfl, UInt64.toNat_ofNat_of_lt' (by omega), Nat.add_mod_left, Nat.mod_eq_of_lt h]

theorem isNegative_ofMagnitude {m : Nat} (negative : Bool) (h : m < signBit) :
    (ofMagnitude negative m).isNegative = negative := by
  have hsize : 2 * signBit = UInt64.size := rfl
  unfold isNegative ofMagnitude
  cases negative with
  | false =>
      rw [if_neg Bool.false_ne_true, Nat.zero_add, UInt64.toNat_ofNat_of_lt' (by omega)]
      exact decide_eq_false (by omega)
  | true =>
      rw [if_pos rfl, UInt64.toNat_ofNat_of_lt' (by omega)]
      exact decide_eq_true (by omega)

/-- The number is finite and nearest to a rational one. Of two that are equally near
    it is the one with the even significand. -/
structure Rounds (x : Binary64) (q : ℚ) : Prop where
  finite : x.isFinite = true
  nearest : ∀ y : Binary64, y.isFinite = true → |x.toRat - q| ≤ |y.toRat - q|
  even : ∀ y : Binary64, y.isFinite = true → |y.toRat - q| = |x.toRat - q| → y.toRat ≠ x.toRat →
    Even x.significand

/-- For numbers of one sign it is enough to compare magnitudes. -/
theorem Rounds.of_magnitude {x : Binary64} {q : ℚ} (hx : x.isFinite = true) (hq : 0 < q)
    (h : ∀ y : Binary64, y.magnitude ≠ x.magnitude →
      |x.magnitude - q| ≤ |y.magnitude - q| ∧
        (|y.magnitude - q| = |x.magnitude - q| → Even x.significand)) :
    x.Rounds (if x.isNegative then -q else q) := by
  have hdist : |x.toRat - (if x.isNegative then -q else q)| = |x.magnitude - q| := by
    unfold toRat
    split
    · rw [← neg_sub', abs_neg]
    · rfl
  have habs : |if x.isNegative then -q else q| = q := by
    split
    · rw [abs_neg, abs_of_pos hq]
    · exact abs_of_pos hq
  generalize (if x.isNegative then -q else q) = target at hdist habs ⊢
  have hfar : ∀ y : Binary64, |y.magnitude - q| ≤ |y.toRat - target| := by
    intro y
    rw [← y.abs_toRat, ← habs]
    exact abs_abs_sub_abs_le_abs_sub _ _
  refine ⟨hx, fun y _ => ?_, fun y _ htie hne => ?_⟩
  · rw [hdist]
    by_cases hy : y.magnitude = x.magnitude
    · exact hy ▸ hfar y
    · exact (h y hy).1.trans (hfar y)
  · by_cases hy : y.magnitude = x.magnitude
    · -- The number with the other sign is not equally near.
      rw [← y.abs_toRat, ← x.abs_toRat] at hy
      have hopposite : y.toRat = -x.toRat := (abs_eq_abs.mp hy).resolve_left hne
      rw [hopposite] at htie hne
      rcases abs_eq_abs.mp htie with hzero | hzero
      · exact absurd (by linarith) hne
      · have htarget : target = 0 := by linarith
        rw [htarget, abs_zero] at habs
        exact absurd habs hq.ne
    · exact (h y hy).2 (le_antisymm ((hfar y).trans_eq (htie.trans hdist)) (h y hy).1)

end Signs

section Nearest

theorem nearestMagnitude_lt_signBit (num den : Nat) : nearestMagnitude num den < signBit :=
  (Nat.min_le_right _ _).trans_lt (by decide)

theorem magnitudeBits_nearest (negative : Bool) {num : Nat} (hnum : num ≠ 0) (den : Nat) :
    (nearest negative num den).magnitudeBits = nearestMagnitude num den := by
  unfold nearest
  rw [if_neg hnum, magnitudeBits_ofMagnitude _ (nearestMagnitude_lt_signBit num den)]

theorem magnitudeBits_nearest_zero (negative : Bool) (den : Nat) :
    (nearest negative 0 den).magnitudeBits = 0 := by
  unfold nearest
  rw [if_pos rfl, magnitudeBits_ofMagnitude _ (by decide)]

theorem isNegative_nearest (negative : Bool) (num den : Nat) :
    (nearest negative num den).isNegative = negative := by
  unfold nearest
  split
  · exact isNegative_ofMagnitude _ (by decide)
  · exact isNegative_ofMagnitude _ (nearestMagnitude_lt_signBit num den)

theorem toRat_nearest (negative : Bool) (num den : Nat) :
    (nearest negative num den).toRat =
      if negative then -(nearest negative num den).magnitude
      else (nearest negative num den).magnitude := by
  unfold toRat
  rw [isNegative_nearest]

/-- What a rounded quotient is: a number of units in its last place. -/
theorem magnitude_nearest (negative : Bool) {num den : Nat} (hnum : num ≠ 0) (hden : den ≠ 0)
    (h : (nearest negative num den).isFinite = true) :
    (nearest negative num den).magnitude =
        roundedAt num den (lastPlace num den) * 2 ^ lastPlace num den ∧
      (Even (nearest negative num den).significand ↔
        Even (roundedAt num den (lastPlace num den))) := by
  have hbits := magnitudeBits_nearest negative hnum den
  rw [isFinite_iff, hbits, nearestMagnitude_eq, min_lt_iff, or_iff_left (lt_irrefl _)] at h
  rw [nearestMagnitude_eq, Nat.min_eq_left h.le] at hbits
  have hplace : -1074 ≤ lastPlace num den := le_max_right _ _
  have hlow : (lastPlace num den + 1074).toNat = 0 ∨
      leadingBit ≤ roundedAt num den (lastPlace num den) := by
    by_cases hlast : lastPlace num den = -1074
    · exact .inl (by omega)
    · refine .inr ((nearestWhole_roundedAt num hden _).ge ?_)
      rw [le_div_iff₀ (zpow_two_pos _)]
      exact zpow_lastPlace_le hnum hden hlast
  constructor
  · refine magnitude_eq_of_units hplace ?_
    rw [hbits, unitsOf_add hlow (roundedAt_le hnum hden)]
  · have hexponent : Even ((lastPlace num den + 1074).toNat * leadingBit) :=
      Nat.even_mul.mpr (.inr (by decide))
    rw [even_significand_iff, hbits, Nat.even_add, iff_true_left hexponent]

theorem toRat_nearest_zero (negative : Bool) (den : Nat) :
    (nearest negative 0 den).toRat = 0 := by
  rw [← abs_eq_zero, abs_toRat, ← mul_eq_zero_iff_right cast_unitsPerOne_ne_zero,
    ← unitsOf_magnitudeBits_eq_magnitude, magnitudeBits_nearest_zero, unitsOf_zero, Nat.cast_zero]

/-- Quotients are rounded to the nearest number, unless that is infinite. -/
theorem nearest_rounds (negative : Bool) (num : Nat) {den : Nat} (hden : den ≠ 0)
    (h : (nearest negative num den).isFinite = true) :
    (nearest negative num den).Rounds (if negative then -(num / den : ℚ) else num / den) := by
  by_cases hnum : num = 0
  · have hzero := toRat_nearest_zero negative den
    have htarget : (if negative then -((0 : Nat) / den : ℚ) else (0 : Nat) / den) = 0 := by
      rw [Nat.cast_zero, zero_div, neg_zero, ite_self]
    rw [hnum] at h ⊢
    rw [htarget]
    refine ⟨h, fun y _ => ?_, fun y _ htie hne => absurd ?_ hne⟩
    · rw [hzero, sub_zero, abs_zero]
      exact abs_nonneg _
    · rw [hzero, sub_zero, sub_zero, abs_zero, abs_eq_zero] at htie
      rw [htie, hzero]
  · have hpos : (0 : ℚ) < num / den :=
      div_pos (Nat.cast_pos.mpr (Nat.pos_of_ne_zero hnum))
        (Nat.cast_pos.mpr (Nat.pos_of_ne_zero hden))
    rcases magnitude_nearest negative hnum hden h with ⟨hmagnitude, heven⟩
    have hrounds := Rounds.of_magnitude h hpos fun y hy => by
      rw [hmagnitude, heven]
      refine (nearestWhole_roundedAt num hden _).scaled ?_ (hmagnitude ▸ hy)
      exact (y.magnitude_multiple_or_lt (le_max_right _ _)).imp_right fun hlow =>
        ⟨leadingBit, hlow.2, zpow_lastPlace_le hnum hden hlow.1⟩
    rw [isNegative_nearest] at hrounds
    exact hrounds

/-- Quotients below a power of two are rounded to finite numbers. -/
theorem isFinite_nearest (negative : Bool) (num : Nat) {den : Nat} (hden : den ≠ 0)
    (h : (num : ℚ) / den < 2 ^ (1023 : ℤ)) : (nearest negative num den).isFinite = true := by
  rw [isFinite_iff]
  by_cases hnum : num = 0
  · rw [hnum, magnitudeBits_nearest_zero]
    decide
  · rw [magnitudeBits_nearest _ hnum, nearestMagnitude_eq]
    have hlog : floorLog2 num den < 1023 :=
      (zpow_lt_zpow_iff_right₀ one_lt_two).mp ((floorLog2_bounds hnum hden).1.trans_lt h)
    have hplace : (lastPlace num den + 1074).toNat ≤ 2044 := by
      unfold lastPlace
      omega
    have hexponent := Nat.mul_le_mul_right leadingBit hplace
    have hrounded := roundedAt_le hnum hden
    have hinfinity : infinityBits = 2047 * leadingBit := rfl
    have hlead : 0 < leadingBit := by decide
    exact (Nat.min_le_left _ _).trans_lt (by omega)

/-- Whole numbers of 64 bits are rounded to the nearest number. -/
theorem nearest_rounds_whole {n : Nat} (h : n < 2 ^ 64) : (nearest false n 1).Rounds n := by
  have hquotient : (n : ℚ) / (1 : Nat) = n := by rw [Nat.cast_one, div_one]
  have hrange : (n : ℚ) < 2 ^ (1023 : ℤ) := by
    have hcast : (n : ℚ) < 2 ^ (64 : ℤ) := by exact_mod_cast h
    exact hcast.trans_le (zpow_le_zpow_right₀ one_le_two (by decide))
  have hrounds := nearest_rounds false n one_ne_zero
    (isFinite_nearest false n one_ne_zero (hquotient.trans_lt hrange))
  rw [if_neg Bool.false_ne_true, hquotient] at hrounds
  exact hrounds

end Nearest

end Binary64

end ShapeMatch
