import Mathlib.Order.Monotone.Basic
import ShapeMatch.Binary64

/-!
# Exact Numbers

What number a binary64 pattern denotes, and that comparisons see nothing else.

Every finite number is a whole multiple of the least subnormal one. Counted in
these units a number is an integer, and 1 is `unitsPerOne` of them. So no
statement here needs fractions, and none rounds.

`unitsOf` reads the count off a pattern without its sign bit. It is strictly
monotone, which is why comparing patterns is comparing numbers, and it is
injective for the same reason: two patterns denote one magnitude only if they
are the same pattern. The two zeros are the only numbers that have two
patterns.

`equalsInt` decides equality with an integer by truncation, after it has
excluded the numbers with a fraction and those out of range. `equalsInt_iff`
says that it is equality of the numbers denoted. From there the comparisons of
integers and numbers chain, whichever of the two stands in the middle.

## Main definitions

* `unitsOf`: The magnitude that a pattern denotes, in units.
* `finestExponent`, `unitsPerOne`: The number 1 in units.
* `signedUnits`: The finite number that a pattern denotes, in units.
* `limitBits`: The least number out of range of the integers, as a pattern.
* `truncation`: A finite number without its fraction.
* `Denotation`, `denotation`: What a pattern denotes, infinities and NaN
  included.

## Theorems

* `unitsOf_strictMono`: A greater pattern denotes a greater magnitude.
* `same_iff_signedUnits_eq`: Finite numbers are the same iff they denote the
  same number.
* `units_eq_of_isIntegral`, `isIntegral_of_units_eq`: A number has no fraction
  iff it is a multiple of 1.
* `equalsInt_iff`: Equality with an integer is exact.
* `same_iff_denotation_eq`, `equalsInt_iff_denotation_eq`: Both comparisons are
  equalities of what is denoted.
-/

namespace ShapeMatch

namespace Binary64

/-- The magnitude that a pattern without its sign bit denotes, as a multiple of
    the least subnormal number. -/
def unitsOf (pattern : Nat) : Nat :=
  if pattern / leadingBit = 0 then pattern % leadingBit
  else (leadingBit + pattern % leadingBit) * Nat.pow 2 (pattern / leadingBit - 1)

/-- The least subnormal number is 2 to the power of minus this. -/
def finestExponent : Nat := 1074

/-- How many units make up the number 1. -/
def unitsPerOne : Nat := Nat.pow 2 finestExponent

/-- The finite number that a pattern denotes, as a multiple of the least
    subnormal number. -/
def signedUnits (x : Binary64) : Int :=
  if x.isNegative then -(unitsOf x.magnitudeBits : Int) else unitsOf x.magnitudeBits

-- Rules for powers in the spelling of the definitions, which rewriting with the
-- rules for `^` does not find.
theorem pow_two_add (a b : Nat) : Nat.pow 2 (a + b) = Nat.pow 2 a * Nat.pow 2 b :=
  Nat.pow_add 2 a b

theorem pow_two_pos (a : Nat) : 0 < Nat.pow 2 a := Nat.two_pow_pos a

theorem pow_two_le {a b : Nat} (h : a ≤ b) : Nat.pow 2 a ≤ Nat.pow 2 b :=
  Nat.pow_le_pow_right (by omega) h

theorem unitsPerOne_pos : 0 < unitsPerOne := by
  unfold unitsPerOne
  exact pow_two_pos finestExponent

theorem unitsOf_lt (m : Nat) : unitsOf m < leadingBit * Nat.pow 2 (m / leadingBit) := by
  have hf : m % leadingBit < leadingBit := Nat.mod_lt m (by unfold leadingBit; omega)
  unfold unitsOf
  by_cases he : m / leadingBit = 0
  · rw [if_pos he, he]
    exact hf
  · rw [if_neg he]
    -- A leading bit with a fraction stays below twice the leading bit.
    have hsucc : Nat.pow 2 (m / leadingBit) = 2 * Nat.pow 2 (m / leadingBit - 1) := by
      have h := pow_two_add 1 (m / leadingBit - 1)
      rw [Nat.add_sub_cancel' (Nat.pos_of_ne_zero he)] at h
      exact h
    rw [hsucc, ← Nat.mul_assoc]
    exact Nat.mul_lt_mul_of_pos_right (by omega) (pow_two_pos _)

theorem le_unitsOf (m : Nat) (h : m / leadingBit ≠ 0) :
    leadingBit * Nat.pow 2 (m / leadingBit - 1) ≤ unitsOf m := by
  unfold unitsOf
  rw [if_neg h]
  exact Nat.mul_le_mul_right _ (Nat.le_add_right _ _)

/-- A greater pattern denotes a greater magnitude. So the order of the
    patterns decides every comparison, and no two patterns denote one
    magnitude. -/
theorem unitsOf_strictMono : StrictMono unitsOf := by
  intro m n h
  have hle : m / leadingBit ≤ n / leadingBit := Nat.div_le_div_right (Nat.le_of_lt h)
  by_cases he : m / leadingBit = n / leadingBit
  · -- One exponent: the fractions decide.
    have hf : m % leadingBit < n % leadingBit := by
      have hm := Nat.div_add_mod m leadingBit
      have hn := Nat.div_add_mod n leadingBit
      rw [he] at hm
      omega
    unfold unitsOf
    rw [he]
    by_cases h0 : n / leadingBit = 0
    · rw [if_pos h0, if_pos h0]
      exact hf
    · rw [if_neg h0, if_neg h0]
      exact Nat.mul_lt_mul_of_pos_right (by omega) (pow_two_pos _)
  · -- A power of two lies between the two exponents.
    have hpow : Nat.pow 2 (m / leadingBit) ≤ Nat.pow 2 (n / leadingBit - 1) :=
      pow_two_le (Nat.le_sub_one_of_lt (Nat.lt_of_le_of_ne hle he))
    calc unitsOf m < leadingBit * Nat.pow 2 (m / leadingBit) := unitsOf_lt m
      _ ≤ leadingBit * Nat.pow 2 (n / leadingBit - 1) := Nat.mul_le_mul_left _ hpow
      _ ≤ unitsOf n := le_unitsOf n (Nat.ne_of_gt (Nat.zero_lt_of_lt (Nat.lt_of_le_of_ne hle he)))

theorem unitsOf_zero : unitsOf 0 = 0 := by
  unfold unitsOf
  rw [Nat.zero_div, if_pos rfl, Nat.zero_mod]

-- The units of a number from its significand and its exponent field.
theorem unitsOf_magnitudeBits (x : Binary64) :
    unitsOf x.magnitudeBits = x.significand * Nat.pow 2 (max x.exponentField 1 - 1) := by
  unfold unitsOf significand exponentField fractionField
  by_cases he : x.magnitudeBits / leadingBit = 0
  · rw [if_pos he, if_pos he, he]
    exact (Nat.mul_one _).symm
  · rw [if_neg he, if_neg he, Nat.max_eq_left (Nat.pos_of_ne_zero he)]

theorem same_iff {x y : Binary64} : x.same y = true ↔ x.orderKey? = y.orderKey? := by
  simp only [same, decide_eq_true_eq]

theorem isFinite_iff {x : Binary64} : x.isFinite = true ↔ x.magnitudeBits < infinityBits := by
  simp only [isFinite, decide_eq_true_eq]

theorem not_isNaN_of_isFinite {x : Binary64} (h : x.isFinite = true) : x.isNaN = false := by
  rw [isFinite_iff] at h
  simp only [isNaN, decide_eq_false_iff_not]
  omega

-- The key of a finite number is its pattern with the sign put in front.
theorem orderKey?_of_isFinite {x : Binary64} (h : x.isFinite = true) :
    x.orderKey? = some (if x.isNegative then -(x.magnitudeBits : Int) else x.magnitudeBits) := by
  rw [orderKey?, not_isNaN_of_isFinite h, if_neg (by simp only [Bool.false_eq_true, not_false_iff])]
  by_cases hs : x.isNegative = true
  · rw [if_pos hs, if_pos hs]
  · rw [if_neg hs, if_neg hs]

/-- Finite numbers are the same iff they denote the same number. -/
theorem same_iff_signedUnits_eq {x y : Binary64} (hx : x.isFinite = true)
    (hy : y.isFinite = true) : x.same y = true ↔ x.signedUnits = y.signedUnits := by
  have hinj := unitsOf_strictMono.injective.eq_iff (a := x.magnitudeBits) (b := y.magnitudeBits)
  have hx0 := unitsOf_strictMono.injective.eq_iff (a := x.magnitudeBits) (b := 0)
  have hy0 := unitsOf_strictMono.injective.eq_iff (a := y.magnitudeBits) (b := 0)
  rw [unitsOf_zero] at hx0 hy0
  rw [same_iff, orderKey?_of_isFinite hx, orderKey?_of_isFinite hy, Option.some.injEq]
  unfold signedUnits
  -- Signs can differ only between the two zeros.
  by_cases sx : x.isNegative = true <;> by_cases sy : y.isNegative = true
  · rw [if_pos sx, if_pos sy, if_pos sx, if_pos sy]
    omega
  · rw [if_pos sx, if_neg sy, if_pos sx, if_neg sy]
    omega
  · rw [if_neg sx, if_pos sy, if_neg sx, if_pos sy]
    omega
  · rw [if_neg sx, if_neg sy, if_neg sx, if_neg sy]
    omega

-- Sameness does not mix finite numbers with others.
theorem isFinite_of_same {x y : Binary64} (h : x.same y = true) (hx : x.isFinite = true) :
    y.isFinite = true := by
  rw [same_iff, orderKey?_of_isFinite hx] at h
  rw [isFinite_iff] at hx ⊢
  unfold orderKey? at h
  by_cases hn : y.isNaN = true
  · rw [if_pos hn] at h
    exact absurd h (by simp only [reduceCtorEq, not_false_iff])
  · rw [if_neg hn] at h
    by_cases sx : x.isNegative = true <;> by_cases sy : y.isNegative = true <;>
      simp only [sx, sy, if_true, Bool.false_eq_true, if_false, Option.some.injEq] at h <;> omega

-- The exponent in terms of its field, which counts from 1 for subnormals.
theorem exponent_eq (x : Binary64) :
    x.exponent = ((max x.exponentField 1 : Nat) : Int) - 1075 := rfl

/-- A number without fraction is its truncation. -/
theorem units_eq_of_isIntegral {x : Binary64} (h : x.isIntegral = true) :
    unitsOf x.magnitudeBits = x.truncatedMagnitude * unitsPerOne := by
  unfold isIntegral at h
  rw [Bool.and_eq_true, Bool.or_eq_true, decide_eq_true_eq, decide_eq_true_eq] at h
  rw [unitsOf_magnitudeBits]
  unfold truncatedMagnitude unitsPerOne
  have hexp := exponent_eq x
  have hpos : 1 ≤ max x.exponentField 1 := Nat.le_max_right _ _
  generalize max x.exponentField 1 = e at hexp hpos
  have hunit : finestExponent = 1074 := rfl
  by_cases he : 0 ≤ x.exponent
  · rw [if_pos he, Nat.mul_assoc, ← pow_two_add]
    congr 2
    omega
  · rw [if_neg he]
    rcases h.2 with hle | hmod
    · exact absurd hle he
    · -- The power of two that divides the significand makes up for the exponent.
      have hsplit := Nat.div_add_mod x.significand (Nat.pow 2 (-x.exponent).toNat)
      rw [hmod, Nat.add_zero] at hsplit
      have hsum : finestExponent = (-x.exponent).toNat + (e - 1) := by omega
      rw [hsum, pow_two_add, ← Nat.mul_assoc, Nat.mul_comm (x.significand / _), hsplit]

/-- A finite multiple of 1 has no fraction. -/
theorem isIntegral_of_units_eq {x : Binary64} {n : Nat} (hx : x.isFinite = true)
    (h : unitsOf x.magnitudeBits = n * unitsPerOne) : x.isIntegral = true := by
  unfold isIntegral
  rw [Bool.and_eq_true, Bool.or_eq_true, decide_eq_true_eq, decide_eq_true_eq]
  refine ⟨hx, ?_⟩
  rw [unitsOf_magnitudeBits] at h
  unfold unitsPerOne at h
  have hexp := exponent_eq x
  have hpos : 1 ≤ max x.exponentField 1 := Nat.le_max_right _ _
  generalize max x.exponentField 1 = e at h hexp hpos
  have hunit : finestExponent = 1074 := rfl
  by_cases he : 0 ≤ x.exponent
  · exact Or.inl he
  · right
    -- The number 1 has the power of two of the significand as a factor.
    have hsum : finestExponent = (-x.exponent).toNat + (e - 1) := by omega
    rw [hsum, pow_two_add, ← Nat.mul_assoc] at h
    rw [Nat.eq_of_mul_eq_mul_right (pow_two_pos _) h]
    exact Nat.mul_mod_left _ _

/-- The number `2^63`, as a pattern. -/
def limitBits : Nat := 0x43E0000000000000

theorem unitsOf_limitBits : unitsOf limitBits = Nat.pow 2 63 * unitsPerOne := by
  -- No fraction, and an exponent field of 1086.
  have hdiv : limitBits / leadingBit = 1086 := rfl
  have hmod : limitBits % leadingBit = 0 := rfl
  have hexp : 1086 - 1 = 11 + finestExponent := rfl
  have hlead : leadingBit * Nat.pow 2 11 = Nat.pow 2 63 := rfl
  unfold unitsOf unitsPerOne
  rw [hdiv, hmod, if_neg (by omega), hexp, pow_two_add, ← Nat.mul_assoc, Nat.add_zero, hlead]

-- The range check of the comparison with integers, on the number denoted.
theorem inRange_iff {x : Binary64} (hx : x.isFinite = true) :
    (leastInt64.le x && x.lt int64Limit) = true ↔
      -(Nat.pow 2 63 * unitsPerOne : Int) ≤ x.signedUnits ∧
        x.signedUnits < (Nat.pow 2 63 * unitsPerOne : Int) := by
  -- The bounds differ in sign alone, so one pattern stands for both.
  have hleast : leastInt64.orderKey? = some (-(limitBits : Int)) := by decide
  have hlimit : int64Limit.orderKey? = some (limitBits : Int) := by decide
  have hle := unitsOf_strictMono.le_iff_le (a := x.magnitudeBits) (b := limitBits)
  have hlt := unitsOf_strictMono.lt_iff_lt (a := x.magnitudeBits) (b := limitBits)
  rw [unitsOf_limitBits] at hle hlt
  have hcast : ((Nat.pow 2 63 * unitsPerOne : Nat) : Int) = Nat.pow 2 63 * unitsPerOne :=
    Int.natCast_mul _ _
  rw [← hcast]
  have hpos := Nat.mul_pos (pow_two_pos 63) unitsPerOne_pos
  have hlim : 0 < limitBits := by decide
  unfold le lt signedUnits
  rw [orderKey?_of_isFinite hx, hleast, hlimit]
  generalize Nat.pow 2 63 * unitsPerOne = bound at hle hlt hpos
  by_cases hs : x.isNegative = true
  · rw [if_pos hs, if_pos hs]
    simp only [Bool.and_eq_true, decide_eq_true_eq]
    omega
  · rw [if_neg hs, if_neg hs]
    simp only [Bool.and_eq_true, decide_eq_true_eq]
    omega

/-- A finite number without its fraction. -/
def truncation (x : Binary64) : Int :=
  if x.isNegative then -(x.truncatedMagnitude : Int) else x.truncatedMagnitude

theorem signedUnits_eq_of_isIntegral {x : Binary64} (h : x.isIntegral = true) :
    x.signedUnits = x.truncation * unitsPerOne := by
  unfold signedUnits truncation
  rw [units_eq_of_isIntegral h]
  by_cases hs : x.isNegative = true
  · rw [if_pos hs, if_pos hs, Int.natCast_mul, Int.neg_mul]
  · rw [if_neg hs, if_neg hs, Int.natCast_mul]

-- Where the truncation is in range, it is what the cast returns.
theorem toInt_toInt64 {x : Binary64} (hx : x.isFinite = true)
    (hlo : Int64.minValue.toInt ≤ x.truncation) (hhi : x.truncation ≤ Int64.maxValue.toInt) :
    x.toInt64.toInt = x.truncation := by
  have hinf : x.isInfinite = false := by
    rw [isFinite_iff] at hx
    simp only [isInfinite, decide_eq_false_iff_not]
    omega
  have hmin := Int64.toInt_minValue
  have hmax := Int64.toInt_maxValue
  have hcast : x.toInt64 = Int64.ofInt x.truncation := by
    unfold toInt64
    rw [not_isNaN_of_isFinite hx, hinf]
    unfold truncation at hlo hhi ⊢
    simp only [Bool.false_eq_true, if_false]
    rw [if_neg (by omega), if_neg (by omega)]
  rw [hcast]
  exact Int64.toInt_ofInt_of_le (by omega) (by omega)

/-- Equality with an integer is equality of the numbers denoted. The cast is
    only consulted for numbers without fraction and within range. -/
theorem equalsInt_iff {x : Binary64} {i : Int64} :
    x.equalsInt i = true ↔ x.isFinite = true ∧ x.signedUnits = i.toInt * unitsPerOne := by
  have hunit : (0 : Int) < unitsPerOne := Int.natCast_pos.mpr unitsPerOne_pos
  have hmin := Int64.toInt_minValue
  have hmax := Int64.toInt_maxValue
  have hpow : ((Nat.pow 2 63 : Nat) : Int) = 9223372036854775808 := rfl
  unfold equalsInt
  rw [Bool.and_assoc x.isIntegral, Bool.and_eq_true, Bool.and_eq_true, beq_iff_eq]
  constructor
  · intro hequal
    rcases hequal with ⟨⟨hint, hrange⟩, hcast⟩
    have hx : x.isFinite = true := by
      unfold isIntegral at hint
      exact (Bool.and_eq_true _ _ ▸ hint).1
    rw [inRange_iff hx, signedUnits_eq_of_isIntegral hint] at hrange
    rcases hrange with ⟨hlo, hhi⟩
    -- Without a fraction, the bounds on the number are bounds on its truncation.
    rw [← Int.neg_mul] at hlo
    have hlo' := Int.le_of_mul_le_mul_right hlo hunit
    have hhi' := Int.lt_of_mul_lt_mul_right hhi (Int.le_of_lt hunit)
    have htrunc := toInt_toInt64 hx (by omega) (by omega)
    refine ⟨hx, ?_⟩
    rw [signedUnits_eq_of_isIntegral hint, ← htrunc, hcast]
  · intro hequal
    rcases hequal with ⟨hx, hunits⟩
    have hint : x.isIntegral = true := by
      refine isIntegral_of_units_eq (n := i.toInt.natAbs) hx ?_
      have habs := congrArg Int.natAbs hunits
      rw [Int.natAbs_mul, Int.natAbs_natCast] at habs
      rw [← habs]
      unfold signedUnits
      by_cases hs : x.isNegative = true
      · rw [if_pos hs, Int.natAbs_neg, Int.natAbs_natCast]
      · rw [if_neg hs, Int.natAbs_natCast]
    have htrunc : x.truncation = i.toInt := by
      rw [signedUnits_eq_of_isIntegral hint] at hunits
      exact Int.eq_of_mul_eq_mul_right (Int.ne_of_gt hunit) hunits
    -- The range of the integers is what the check asks for.
    have hlo := Int64.le_toInt i
    have hhi := Int64.toInt_lt i
    refine ⟨⟨hint, ?_⟩, ?_⟩
    · rw [inRange_iff hx, hunits, ← Int.neg_mul]
      exact ⟨Int.mul_le_mul_of_nonneg_right (by omega) (Int.le_of_lt hunit),
        Int.mul_lt_mul_of_pos_right (by omega) hunit⟩
    · rw [← Int64.toInt_inj, toInt_toInt64 hx (by omega) (by omega), htrunc]

/-- What a number denotes. Finite numbers are counted in units. -/
inductive Denotation where
  | finite (units : Int)
  | infinite (negative : Bool)
  | nan

/-- What a pattern denotes. -/
def denotation (x : Binary64) : Denotation :=
  if x.isFinite then .finite x.signedUnits
  else if x.isInfinite then .infinite x.isNegative
  else .nan

theorem denotation_of_isFinite {x : Binary64} (h : x.isFinite = true) :
    x.denotation = .finite x.signedUnits := by
  unfold denotation
  rw [if_pos h]

-- A number that is not finite denotes an infinity or is a NaN.
theorem denotation_of_not_isFinite {x : Binary64} (h : ¬x.isFinite = true) :
    (x.denotation = .infinite x.isNegative ∧
        x.orderKey? = some (if x.isNegative then -(infinityBits : Int) else infinityBits)) ∨
      (x.denotation = .nan ∧ x.orderKey? = none) := by
  rw [isFinite_iff] at h
  unfold denotation
  rw [if_neg (isFinite_iff.not.mpr h)]
  by_cases hinf : x.magnitudeBits = infinityBits
  · have hnan : x.isNaN = false := by
      simp only [isNaN, decide_eq_false_iff_not]
      omega
    left
    constructor
    · rw [if_pos (by simp only [isInfinite, hinf, decide_true])]
    · unfold orderKey?
      rw [hnan, hinf]
      by_cases hs : x.isNegative = true
      · rw [if_neg Bool.false_ne_true, if_pos hs, if_pos hs]
      · rw [if_neg Bool.false_ne_true, if_neg hs, if_neg hs]
  · -- Past the pattern of infinity there are NaNs only.
    have hnan : x.isNaN = true := by
      simp only [isNaN, decide_eq_true_eq]
      omega
    right
    constructor
    · rw [if_neg (by simp only [isInfinite, hinf, decide_false, Bool.false_eq_true, not_false_iff])]
    · unfold orderKey?
      rw [if_pos hnan]

/-- The comparison of numbers sees what they denote and nothing else. -/
theorem same_iff_denotation_eq {x y : Binary64} :
    x.same y = true ↔ x.denotation = y.denotation := by
  have hpos : 0 < infinityBits := by decide
  by_cases hx : x.isFinite = true <;> by_cases hy : y.isFinite = true
  · rw [same_iff_signedUnits_eq hx hy, denotation_of_isFinite hx, denotation_of_isFinite hy,
      Denotation.finite.injEq]
  · constructor
    · intro h
      exact absurd (isFinite_of_same h hx) hy
    · intro h
      rw [denotation_of_isFinite hx] at h
      rcases denotation_of_not_isFinite hy with ⟨hd, -⟩ | ⟨hd, -⟩ <;> rw [hd] at h <;> cases h
  · constructor
    · intro h
      exact absurd (isFinite_of_same (same_symm h) hy) hx
    · intro h
      rw [denotation_of_isFinite hy] at h
      rcases denotation_of_not_isFinite hx with ⟨hd, -⟩ | ⟨hd, -⟩ <;> rw [hd] at h <;> cases h
  · rw [same_iff]
    rcases denotation_of_not_isFinite hx with ⟨hdx, hkx⟩ | ⟨hdx, hkx⟩ <;>
      rcases denotation_of_not_isFinite hy with ⟨hdy, hky⟩ | ⟨hdy, hky⟩ <;>
      rw [hdx, hdy, hkx, hky]
    · -- The keys of the infinities tell their signs.
      rw [Option.some.injEq, Denotation.infinite.injEq]
      by_cases sx : x.isNegative = true <;> by_cases sy : y.isNegative = true <;>
        simp only [sx, sy, if_true, Bool.false_eq_true, if_false, iff_false,
          Bool.true_eq_false] <;> omega
    · simp only [reduceCtorEq]
    · simp only [reduceCtorEq]
    · exact iff_of_true rfl rfl

/-- The comparison with an integer sees what the number denotes. -/
theorem equalsInt_iff_denotation_eq {x : Binary64} {i : Int64} :
    x.equalsInt i = true ↔ x.denotation = .finite (i.toInt * unitsPerOne) := by
  rw [equalsInt_iff]
  constructor
  · intro hequal
    rcases hequal with ⟨hx, hunits⟩
    rw [denotation_of_isFinite hx, hunits]
  · intro h
    by_cases hx : x.isFinite = true
    · rw [denotation_of_isFinite hx, Denotation.finite.injEq] at h
      exact ⟨hx, h⟩
    · rcases denotation_of_not_isFinite hx with ⟨hd, -⟩ | ⟨hd, -⟩ <;> rw [hd] at h <;> cases h

end Binary64

end ShapeMatch
