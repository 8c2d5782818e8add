import ShapeMatch.Json.Numeral
import ShapeMatch.Proofs.Documents

/-!
# Numerals

What numbers the numerals of JSON texts become: which are integers, and which become
the binary64 number nearest to the number that is written.

Which numerals are integers is a matter of how they are written. Digits that fit the
coefficient are gathered all, and the first one that does not fit makes the power of
ten positive, so an integer that has been gathered is the one that is written.

All other numbers are rounded, first the coefficient and then its product with a
power of ten, or the quotient. That could be once too often. But a number that has
no more bits than a significand is rounded to itself, and so are the powers of ten
up to `1e22`, whose zeros are powers of two times powers of five. So of numerals with
few digits and a small exponent only the product is rounded, to the nearest number.

## Main definitions

* `Json.Numeral.integer`: The integer that the digits before the point stand for.
* `Json.Numeral.rational`: The number that a numeral is written as.

## Theorems

* `nearest_exact`: Numbers that need no rounding are not rounded.
* `mul_rounds`, `div_rounds`: Products and quotients are rounded once.
* `Decimal.scaled_rounds`: Short decimals are rounded to the nearest number.
* `Decimal.pushWhole_cases`: Digits are gathered all, or they are too many.
* `Numeral.ofNumber_value?_iff`: Which numerals become integers.
* `Numeral.value?_of_lt`: Short numerals become the nearest number.
-/

namespace ShapeMatch

namespace Binary64

section Exact

/-- A quotient of at most 53 bits is rounded to itself. -/
theorem nearest_exact (negative : Bool) {num den m : Nat} {j : ℤ} (hden : den ≠ 0)
    (hm : m < 2 ^ 53) (hlow : -1074 ≤ j) (hhigh : j ≤ 970)
    (hquotient : (num : ℚ) / den = m * 2 ^ j) :
    (nearest negative num den).isFinite = true ∧
      (nearest negative num den).magnitude = num / den := by
  have hlt : (num : ℚ) / den < 2 ^ (53 + j) := by
    rw [hquotient, zpow_add₀ two_ne_zero]
    refine mul_lt_mul_of_pos_right ?_ (zpow_two_pos j)
    exact_mod_cast hm
  have hfinite := isFinite_nearest negative num hden
    (hlt.trans_le (zpow_le_zpow_right₀ one_le_two (by omega)))
  refine ⟨hfinite, ?_⟩
  by_cases hnum : num = 0
  · rw [hnum, Nat.cast_zero, zero_div, ← abs_toRat, toRat_nearest_zero, abs_zero]
  · -- The last place is not above the power of two, so nothing has to be rounded.
    have hlog : floorLog2 num den < 53 + j :=
      (zpow_lt_zpow_iff_right₀ one_lt_two).mp ((floorLog2_bounds hnum hden).1.trans_lt hlt)
    have hplace : lastPlace num den ≤ j := by
      unfold lastPlace
      omega
    have hunits : (num : ℚ) / den / 2 ^ lastPlace num den =
        (m * Nat.pow 2 (j - lastPlace num den).toNat : Nat) := by
      rw [hquotient, Nat.cast_mul, cast_pow_toNat (by omega), mul_div_assoc,
        ← zpow_sub₀ two_ne_zero]
    have hround := nearestWhole_roundedAt num hden (lastPlace num den)
    rw [hunits] at hround
    rw [(magnitude_nearest negative hnum hden hfinite).1, hround.eq, ← hunits,
      div_mul_cancel₀ _ (zpow_two_pos _).ne']

end Exact

section Arithmetic

theorem magnitude_eq_div (x : Binary64) : x.magnitude = x.numerator / x.denominator := by
  have hexponent : -1074 ≤ x.exponent := by
    unfold exponent
    omega
  have hunits : unitsOf x.magnitudeBits = x.significand * Nat.pow 2 (x.exponent + 1074).toNat := by
    have hplaces : (x.exponent + 1074).toNat = max x.exponentField 1 - 1 := by
      unfold exponent
      omega
    rw [unitsOf_magnitudeBits, hplaces]
  have hone : ((Nat.pow 2 0 : Nat) : ℚ) = 1 := Nat.cast_one
  rw [magnitude_eq_of_units hexponent hunits]
  unfold numerator denominator
  by_cases he : 0 ≤ x.exponent
  · rw [Int.toNat_of_nonpos (by omega : -x.exponent ≤ 0), hone, div_one, Nat.cast_mul,
      cast_pow_toNat he]
  · rw [Int.toNat_of_nonpos (by omega : x.exponent ≤ 0), Nat.cast_mul, hone, mul_one,
      cast_pow_toNat (by omega), zpow_neg, div_inv_eq_mul]

-- Signs and magnitudes are multiplied and divided apart.
theorem toRat_mul_toRat (x y : Binary64) :
    x.toRat * y.toRat = if x.isNegative != y.isNegative then -(x.magnitude * y.magnitude)
      else x.magnitude * y.magnitude := by
  unfold toRat
  cases x.isNegative <;> cases y.isNegative <;> simp

theorem toRat_div_toRat (x y : Binary64) :
    x.toRat / y.toRat = if x.isNegative != y.isNegative then -(x.magnitude / y.magnitude)
      else x.magnitude / y.magnitude := by
  unfold toRat
  cases x.isNegative <;> cases y.isNegative <;> simp [neg_div, div_neg]

theorem mul_quotient (x y : Binary64) :
    ((x.numerator * y.numerator : Nat) : ℚ) / (x.denominator * y.denominator : Nat) =
      x.magnitude * y.magnitude := by
  rw [magnitude_eq_div, magnitude_eq_div, Nat.cast_mul, Nat.cast_mul, div_mul_div_comm]

theorem div_quotient (x y : Binary64) :
    ((x.numerator * y.denominator : Nat) : ℚ) / (x.denominator * y.numerator : Nat) =
      x.magnitude / y.magnitude := by
  rw [magnitude_eq_div, magnitude_eq_div, Nat.cast_mul, Nat.cast_mul, div_div_div_eq]

/-- A product is the number nearest to the exact product. -/
theorem mul_rounds {x y : Binary64} (h : x.magnitude * y.magnitude < 2 ^ (1023 : ℤ)) :
    (x.mul y).Rounds (x.toRat * y.toRat) := by
  have hden : x.denominator * y.denominator ≠ 0 :=
    (Nat.mul_pos x.denominator_pos y.denominator_pos).ne'
  rw [← mul_quotient] at h
  rw [toRat_mul_toRat, ← mul_quotient]
  exact nearest_rounds _ _ hden (isFinite_nearest _ _ hden h)

/-- A quotient is the number nearest to the exact quotient. -/
theorem div_rounds {x y : Binary64} (hy : y.numerator ≠ 0)
    (h : x.magnitude / y.magnitude < 2 ^ (1023 : ℤ)) : (x.div y).Rounds (x.toRat / y.toRat) := by
  have hden : x.denominator * y.numerator ≠ 0 := Nat.mul_ne_zero x.denominator_pos.ne' hy
  rw [← div_quotient] at h
  rw [toRat_div_toRat, ← div_quotient]
  exact nearest_rounds _ _ hden (isFinite_nearest _ _ hden h)

/-- Powers of ten up to `1e22` have 53 bits at most, apart from their zeros. -/
theorem magnitude_powerOfTen {n : Nat} (h : n ≤ 22) :
    (powerOfTen n).magnitude = 10 ^ (n : ℤ) := by
  have hfive : 5 ^ n < 2 ^ 53 := (Nat.pow_le_pow_right (by decide) h).trans_lt (by decide)
  have hten : ((Nat.pow 10 n : Nat) : ℚ) = 10 ^ (n : ℤ) := by
    rw [zpow_natCast]
    exact Nat.cast_pow 10 n
  have hquotient : ((Nat.pow 10 n : Nat) : ℚ) / (1 : Nat) = (5 ^ n : Nat) * 2 ^ (n : ℤ) := by
    rw [hten, Nat.cast_one, div_one, zpow_natCast, zpow_natCast, Nat.cast_pow, ← mul_pow]
    norm_num
  unfold powerOfTen
  rw [(nearest_exact false one_ne_zero hfive (by omega) (by omega) hquotient).2, hten,
    Nat.cast_one, div_one]

theorem toRat_powerOfTen {n : Nat} (h : n ≤ 22) : (powerOfTen n).toRat = 10 ^ (n : ℤ) := by
  rw [← magnitude_powerOfTen h]
  exact (toRat_nearest false _ 1).trans (if_neg Bool.false_ne_true)

/-- A product with such a power of ten is only rounded once. -/
theorem mulPowerOfTen_rounds {x : Binary64} (hx : x.magnitude < 2 ^ (53 : ℤ)) {n : Nat}
    (hn : n ≤ 22) : (x.mulPowerOfTen n).Rounds (x.toRat * 10 ^ (n : ℤ)) := by
  unfold mulPowerOfTen
  rw [if_pos (hn.trans (by decide)), ← toRat_powerOfTen hn]
  refine mul_rounds ?_
  rw [magnitude_powerOfTen hn]
  have hten : (10 : ℚ) ^ (n : ℤ) ≤ 2 ^ (74 : ℤ) :=
    (zpow_le_zpow_right₀ (by norm_num) (Int.ofNat_le.mpr hn)).trans (by norm_num)
  calc x.magnitude * 10 ^ (n : ℤ)
      < 2 ^ (53 : ℤ) * 2 ^ (74 : ℤ) :=
        mul_lt_mul hx hten (zpow_pos (by norm_num) _) (zpow_two_pos _).le
    _ = 2 ^ (53 + 74 : ℤ) := (zpow_add₀ two_ne_zero _ _).symm
    _ ≤ 2 ^ (1023 : ℤ) := zpow_le_zpow_right₀ one_le_two (by decide)

/-- A quotient by such a power of ten is only rounded once. -/
theorem divPowerOfTen_rounds {x : Binary64} (hx : x.magnitude < 2 ^ (53 : ℤ)) {n : Nat}
    (hn : n ≤ 22) : (x.divPowerOfTen n).Rounds (x.toRat / 10 ^ (n : ℤ)) := by
  have hmagnitude := magnitude_powerOfTen hn
  unfold divPowerOfTen
  rw [if_pos (hn.trans (by decide)), ← toRat_powerOfTen hn]
  refine div_rounds ?_ ?_
  · intro hzero
    rw [magnitude_eq_div, hzero, Nat.cast_zero, zero_div] at hmagnitude
    exact absurd hmagnitude.symm (zpow_pos (by norm_num) _).ne'
  · rw [hmagnitude]
    calc x.magnitude / 10 ^ (n : ℤ)
        ≤ x.magnitude := div_le_self x.magnitude_nonneg (one_le_zpow₀ (by norm_num) (by omega))
      _ < 2 ^ (53 : ℤ) := hx
      _ ≤ 2 ^ (1023 : ℤ) := zpow_le_zpow_right₀ one_le_two (by decide)

theorem magnitude_nearest_whole (negative : Bool) {n : Nat} (h : n < 2 ^ 53) :
    (nearest negative n 1).magnitude = n := by
  have hquotient : (n : ℚ) / (1 : Nat) = n * 2 ^ (0 : ℤ) := by
    rw [Nat.cast_one, div_one, zpow_zero, mul_one]
  rw [(nearest_exact negative one_ne_zero h (by omega) (by omega) hquotient).2, Nat.cast_one,
    div_one]

end Arithmetic

end Binary64

section Decimals

/-- A decimal of at most 53 bits and a power of ten of at most `1e22` is rounded to the
    nearest number, since its two parts are exact and only their product is rounded. -/
theorem Decimal.scaled_rounds (negative : Bool) {d : Decimal} (hc : d.coefficient < 2 ^ 53)
    (he : |d.exponent| ≤ 22) :
    (d.scaled negative).Rounds
      (if negative then -(d.coefficient * 10 ^ d.exponent : ℚ)
        else d.coefficient * 10 ^ d.exponent) := by
  have hwhole := Binary64.magnitude_nearest_whole negative hc
  have hbound : (Binary64.nearest negative d.coefficient 1).magnitude < 2 ^ (53 : ℤ) := by
    rw [hwhole]
    exact_mod_cast hc
  have hsigned : (if negative then -(d.coefficient * 10 ^ d.exponent : ℚ)
      else d.coefficient * 10 ^ d.exponent) =
        (Binary64.nearest negative d.coefficient 1).toRat * 10 ^ d.exponent := by
    rw [Binary64.toRat_nearest, hwhole, ite_mul, neg_mul]
  rw [abs_le] at he
  rw [hsigned]
  unfold scaled
  dsimp only
  by_cases hsign : 0 ≤ d.exponent
  · have hrounds := Binary64.mulPowerOfTen_rounds hbound (show d.exponent.toNat ≤ 22 by omega)
    rw [Int.toNat_of_nonneg hsign] at hrounds
    rw [if_pos hsign]
    exact hrounds
  · have hrounds := Binary64.divPowerOfTen_rounds hbound (show (-d.exponent).toNat ≤ 22 by omega)
    rw [Int.toNat_of_nonneg (by omega), zpow_neg, div_inv_eq_mul] at hrounds
    rw [if_neg hsign]
    exact hrounds

theorem le_ofDigitChars (digits : List Char) (n : Nat) : n ≤ Nat.ofDigitChars 10 digits n := by
  induction digits generalizing n with
  | nil => exact Nat.le_refl n
  | cons c rest ih =>
      rw [Nat.ofDigitChars_cons]
      exact (show n ≤ 10 * n + _ by omega).trans (ih _)

/-- Digits that fit are gathered all, and from the first on that does not fit they
    are counted as places. -/
theorem Decimal.pushWhole_cases (d : Decimal) (digits : List Char) :
    d.pushWhole digits = ⟨Nat.ofDigitChars 10 digits d.coefficient, d.exponent⟩ ∨
      UInt64.size ≤ Nat.ofDigitChars 10 digits d.coefficient ∧
        d.exponent < (d.pushWhole digits).exponent := by
  induction digits generalizing d with
  | nil => exact .inl rfl
  | cons c rest ih =>
      rw [pushWhole, Nat.ofDigitChars_cons]
      by_cases hfits : d.fits c = true
      · rw [if_pos hfits]
        exact ih (d.push c)
      · rw [if_neg hfits]
        have hsize : UInt64.size ≤ (d.push c).coefficient := by
          unfold fits at hfits
          rw [decide_eq_true_eq] at hfits
          exact Nat.le_of_not_lt hfits
        refine .inr ⟨hsize.trans (le_ofDigitChars rest _), ?_⟩
        dsimp only
        omega

theorem Decimal.pushPlaces_eq {d : Decimal} {digits : List Char}
    (h : Nat.ofDigitChars 10 digits d.coefficient < UInt64.size) :
    d.pushPlaces digits =
      ⟨Nat.ofDigitChars 10 digits d.coefficient, d.exponent - digits.length⟩ := by
  induction digits generalizing d with
  | nil => exact congrArg (Decimal.mk _) (Int.sub_zero _).symm
  | cons c rest ih =>
      rw [Nat.ofDigitChars_cons] at h
      have hfits : d.fits c = true := decide_eq_true ((le_ofDigitChars rest _).trans_lt h)
      rw [pushPlaces, if_pos hfits, ih h, Nat.ofDigitChars_cons, List.length_cons]
      refine congrArg (Decimal.mk _) ?_
      dsimp only
      omega

end Decimals

namespace Json

/-- The integer that a sign and the digits in front of the point stand for. -/
def Numeral.integer (n : Numeral) : Int :=
  if n.negative then -(Nat.ofDigitChars 10 n.whole 0 : Int) else Nat.ofDigitChars 10 n.whole 0

/-- Without fraction and exponent, the digits of a numeral are gathered all, or the
    power of ten is positive. -/
theorem Numeral.decimal_cases {n : Numeral} (h : n.isWhole = true) :
    n.decimal = ⟨Nat.ofDigitChars 10 n.whole 0, 0⟩ ∨
      UInt64.size ≤ Nat.ofDigitChars 10 n.whole 0 ∧ 0 < n.decimal.exponent := by
  unfold isWhole at h
  rw [Bool.and_eq_true, Option.isNone_iff_eq_none, Option.isNone_iff_eq_none] at h
  have hdecimal : n.decimal = (Decimal.mk 0 0).pushWhole n.whole := by
    unfold decimal
    rw [h.1, h.2]
    exact congrArg (Decimal.mk _) (Int.add_zero _)
  rw [hdecimal]
  exact Decimal.pushWhole_cases ⟨0, 0⟩ n.whole

/-- An integer is the one with its sign and magnitude, and no negative zero. -/
theorem whole?_of_integer? {negative : Bool} {magnitude : Nat} {m : Number}
    (h : integer? negative magnitude = some m) :
    m.whole? = some (if negative then -(magnitude : Int) else magnitude) ∧
      ¬(negative = true ∧ magnitude = 0) := by
  unfold integer? at h
  dsimp only at h
  generalize hvalue : (if negative then -(magnitude : Int) else magnitude) = value at h ⊢
  split at h
  · exact nomatch h
  · next hzero =>
      refine ⟨?_, hzero⟩
      split at h
      · next hrange =>
          rw [← Option.some.inj h]
          exact congrArg some (Int64.toInt_ofInt_of_le hrange.1 (Int.lt_add_one_of_le hrange.2))
      · split at h
        · next hbeyond =>
            rw [Bool.not_eq_true'] at hbeyond
            rw [hbeyond.1, if_neg Bool.false_ne_true] at hvalue
            rw [← Option.some.inj h, ← hvalue]
            exact congrArg (fun k : Nat => some (k : Int)) (UInt64.toNat_ofNat_of_lt' hbeyond.2)
        · exact nomatch h

theorem integer?_eq_signed {negative : Bool} {magnitude : Nat} {i : Int64}
    (hvalue : (if negative then -(magnitude : Int) else magnitude) = i.toInt)
    (hzero : ¬(negative = true ∧ i = 0)) : integer? negative magnitude = some (.signed i) := by
  have hnonzero : ¬(negative = true ∧ magnitude = 0) := by
    rintro ⟨hnegative, hmagnitude⟩
    rw [hmagnitude, if_pos hnegative] at hvalue
    exact hzero ⟨hnegative, Int64.toInt_inj.mp hvalue.symm⟩
  unfold integer?
  dsimp only
  rw [hvalue, if_neg hnonzero, if_pos ⟨Int64.minValue_le_toInt i, Int64.toInt_le i⟩,
    Int64.ofInt_toInt]

/-- The number of a numeral is an integer, or else it is finite. -/
theorem Numeral.value?_cases {n : Numeral} {m : Number} (h : n.value? = some m) :
    (n.isWhole = true ∧ n.decimal.exponent = 0 ∧
      integer? n.negative n.decimal.coefficient = some m) ∨
    (n.decimal.scaled n.negative).isFinite = true ∧ m = .real (n.decimal.scaled n.negative) := by
  unfold value? at h
  dsimp only at h
  rw [Option.orElse_eq_orElse, Option.orElse_eq_or, Option.or_eq_some_iff] at h
  rcases h with hexact | ⟨-, hreal⟩
  · rw [Option.ite_none_right_eq_some, Bool.and_eq_true, decide_eq_true_eq, and_assoc] at hexact
    exact .inl hexact
  · unfold real? at hreal
    rw [Option.ite_none_right_eq_some, Option.some.injEq] at hreal
    exact .inr ⟨hreal.1, hreal.2.symm⟩

theorem finite_of_value? {numeral : Numeral} {n : Number} (h : numeral.value? = some n) :
    n.Finite := by
  rintro x rfl
  rcases Numeral.value?_cases h with ⟨-, -, hinteger⟩ | ⟨hfinite, heq⟩
  · exact nomatch (whole?_of_integer? hinteger).1
  · exact Number.real.inj heq ▸ hfinite

/-- A numeral becomes an integer iff it is written as one of the signed range, without
    fraction and exponent. A negative zero is no integer. -/
theorem Numeral.ofNumber_value?_iff (n : Numeral) (i : Int64) :
    n.value?.map Value.ofNumber = some (.int i) ↔
      n.isWhole = true ∧ n.integer = i.toInt ∧ ¬(n.negative = true ∧ i = 0) := by
  constructor
  · intro h
    rcases Option.map_eq_some_iff.mp h with ⟨m, hm, hint⟩
    have hheld : m.whole? = some i.toInt := by
      rcases Value.ofNumber_cases m with ⟨j, hj, hheld⟩ | ⟨x, hx, -⟩
      · exact Value.int.inj (hj.symm.trans hint) ▸ hheld
      · exact nomatch hx.symm.trans hint
    rcases value?_cases hm with ⟨hwhole, hexponent, hinteger⟩ | ⟨-, rfl⟩
    · rcases decimal_cases hwhole with hall | ⟨-, hplaces⟩
      · rw [hall] at hinteger
        rcases whole?_of_integer? hinteger with ⟨hvalue, hzero⟩
        rw [hheld, Option.some.injEq] at hvalue
        refine ⟨hwhole, hvalue.symm, fun hnegative => hzero ⟨hnegative.1, ?_⟩⟩
        rw [hnegative.2, if_pos hnegative.1, Int64.toInt_zero] at hvalue
        exact Int.natCast_eq_zero.mp (Int.neg_eq_zero.mp hvalue.symm)
      · exact absurd hexponent hplaces.ne'
    · exact nomatch hheld
  · rintro ⟨hwhole, hvalue, hzero⟩
    unfold integer at hvalue
    rcases decimal_cases hwhole with hall | ⟨hlarge, -⟩
    · unfold value?
      dsimp only
      rw [hwhole, hall, integer?_eq_signed hvalue hzero]
      rfl
    · -- Integers of the signed range have no more digits than fit.
      have hlow := Int64.le_toInt i
      have hhigh := Int64.toInt_lt i
      have hsize : UInt64.size = 2 ^ 64 := rfl
      split at hvalue <;> omega

/-- The digits on both sides of the point. -/
def Numeral.digits (n : Numeral) : List Char := n.whole ++ n.fraction.getD []

/-- The power of ten that the last digit counts. -/
def Numeral.places (n : Numeral) : Int := n.exponent.getD 0 - (n.fraction.getD []).length

/-- The number that a numeral is written as. -/
def Numeral.rational (n : Numeral) : ℚ :=
  if n.negative then -(Nat.ofDigitChars 10 n.digits 0 * 10 ^ n.places : ℚ)
  else Nat.ofDigitChars 10 n.digits 0 * 10 ^ n.places

/-- Digits that fit all stand for the decimal that is written. -/
theorem Numeral.decimal_of_lt {n : Numeral} (h : Nat.ofDigitChars 10 n.digits 0 < UInt64.size) :
    n.decimal = ⟨Nat.ofDigitChars 10 n.digits 0, n.places⟩ := by
  unfold digits at h ⊢
  rw [Nat.ofDigitChars_append] at h ⊢
  have hwhole : (Decimal.mk 0 0).pushWhole n.whole = ⟨Nat.ofDigitChars 10 n.whole 0, 0⟩ :=
    (Decimal.pushWhole_cases ⟨0, 0⟩ n.whole).resolve_right fun hlarge =>
      absurd (hlarge.1.trans (le_ofDigitChars _ _)) (Nat.not_le_of_lt h)
  unfold decimal places
  rw [hwhole, Decimal.pushPlaces_eq h]
  refine congrArg (Decimal.mk _) ?_
  dsimp only
  omega

/-- A numeral whose digits have at most 53 bits, no more than 22 places from the point,
    becomes the integer or the binary64 number nearest to the number that is written. -/
theorem Numeral.value?_of_lt {n : Numeral} (hdigits : Nat.ofDigitChars 10 n.digits 0 < 2 ^ 53)
    (hplaces : |n.places| ≤ 22) :
    ∃ m, n.value? = some m ∧ (∀ k : Int, m.whole? = some k → k = n.rational) ∧
      ∀ x, m = .real x → x.Rounds n.rational := by
  have hdecimal := n.decimal_of_lt (hdigits.trans (by decide))
  have hrounds : (n.decimal.scaled n.negative).Rounds n.rational := by
    rw [hdecimal]
    exact Decimal.scaled_rounds n.negative hdigits hplaces
  have hreal : real? n.negative n.decimal = some (.real (n.decimal.scaled n.negative)) :=
    if_pos hrounds.finite
  obtain ⟨m, hm⟩ : ∃ m, n.value? = some m := by
    unfold value?
    dsimp only
    rw [hreal, Option.orElse_eq_orElse, Option.orElse_eq_or]
    exact Option.isSome_iff_exists.mp (Option.isSome_or.trans (Bool.or_true _))
  refine ⟨m, hm, ?_⟩
  rcases value?_cases hm with ⟨-, hexponent, hinteger⟩ | ⟨-, rfl⟩
  · have hvalue := (whole?_of_integer? hinteger).1
    refine ⟨fun k hk => ?_, fun x hx => ?_⟩
    · rw [hdecimal] at hexponent hvalue
      change n.places = 0 at hexponent
      rw [hvalue, Option.some.injEq] at hk
      unfold rational
      rw [← hk, hexponent, zpow_zero, mul_one, apply_ite (Int.cast : ℤ → ℚ), Int.cast_neg,
        Int.cast_natCast]
    · rw [hx] at hvalue
      exact nomatch hvalue
  · exact ⟨fun k hk => (nomatch hk), fun x hx => Number.real.inj hx ▸ hrounds⟩

end Json

end ShapeMatch
