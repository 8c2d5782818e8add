import ShapeMatch.Binary64.Arithmetic

/-!
# Decimal Text of Binary64 Numbers

The shortest decimal that reads back as a given number, and its layout.

The reals that round to a finite number form an interval around it, whose ends
lie halfway to its neighbours and belong to it exactly when the significand is
even. Below a power of two the neighbour is closer, and so is the end.

For one digit, two digits and so on, the number lies between two neighbours on
the grid of decimals with that many digits. The first grid with a neighbour in
the interval gives the text, and of two such neighbours the nearer one. On a
finer grid there is always one: seventeen digits tell all numbers apart.

The layout is positional, with at least one digit on each side of the point,
from `1e-4` up to `1e16`; outside that range a number is written with an
exponent of ten and no superfluous point.

## Main definitions

* `Decimal`: A whole number of units of a power of ten.
* `Binary64.shortest`: The shortest decimal that reads back.
* `Decimal.render`: The layout of a decimal.
* `Binary64.render`: The text of a number.
-/

namespace ShapeMatch

/-- The number `coefficient * 10 ^ exponent`. -/
structure Decimal where
  coefficient : Nat
  exponent : Int
  deriving DecidableEq

namespace Decimal

/-- Where positional notation ends: the scientific exponents below `least`
    and from `limit` on are written out. -/
structure Layout where
  least : Int
  limit : Int

/-- Positional from `1e-4` up to `1e16`. -/
def layout : Layout := ⟨-4, 16⟩

/-- Drop the zeros at the end of the coefficient, at most `count` of them. -/
def trim : Nat → Decimal → Decimal
  | 0, d => d
  | count + 1, d =>
    if d.coefficient ≠ 0 ∧ d.coefficient % 10 = 0 then
      trim count ⟨d.coefficient / 10, d.exponent + 1⟩
    else d

/-- Digits with a point after `whole` of them, filled up with zeros. -/
def positional (digits : List Char) (whole : Int) : List Char :=
  if whole ≤ 0 then '0' :: '.' :: (List.replicate (-whole).toNat '0' ++ digits)
  else
    let before := digits.take whole.toNat
    let after := digits.drop whole.toNat
    before ++ List.replicate (whole.toNat - digits.length) '0' ++
      '.' :: (if after.isEmpty then ['0'] else after)

/-- Digits with a point after the first of them, and an exponent of ten. -/
def scientific (digits : List Char) (exponent : Int) : List Char :=
  let fraction := digits.drop 1
  digits.take 1 ++ (if fraction.isEmpty then [] else '.' :: fraction) ++
    'e' :: (toString exponent).toList

/-- The text of a positive decimal without zeros at the end. -/
def render (d : Decimal) : List Char :=
  let digits := Nat.toDigits 10 d.coefficient
  let whole : Int := digits.length + d.exponent
  if layout.least ≤ whole - 1 ∧ whole - 1 < layout.limit then positional digits whole
  else scientific digits (whole - 1)

end Decimal

namespace Binary64

/-- The greatest `p` with `10 ^ p ≤ num / den`, looked for from `guess` down;
    `guess` itself if it is too small. -/
def floorLog10From (num den : Nat) (guess : Int) : Nat → Int
  | 0 => guess
  | steps + 1 =>
    let reached :=
      if 0 ≤ guess then den * Nat.pow 10 guess.toNat ≤ num
      else den ≤ num * Nat.pow 10 (-guess).toNat
    if reached then guess else floorLog10From num den (guess - 1) steps

/-- The interval of a finite number around it, in units of a quarter of its
    last place: the lower end, the number and the upper end. -/
def interval (x : Binary64) : Nat × Nat × Nat :=
  let m := x.significand
  (if m = leadingBit then 4 * m - 1 else 4 * m - 2, 4 * m, 4 * m + 2)

/-- The decimal on the grid of `10 ^ place` that lies in the interval of `x`
    and nearest to `x`, if there is one. -/
def onGrid? (x : Binary64) (place : Int) : Option Decimal :=
  let unit := x.exponent - 2
  -- One scale turns quarters of the last place and grid points into naturals.
  let scale := Nat.pow 2 unit.toNat * Nat.pow 10 (-place).toNat
  let step := Nat.pow 2 (-unit).toNat * Nat.pow 10 place.toNat
  let (low, mid, high) := x.interval
  let inside (k : Nat) : Bool :=
    if x.significand % 2 = 0 then low * scale ≤ k * step ∧ k * step ≤ high * scale
    else low * scale < k * step ∧ k * step < high * scale
  let below := mid * scale / step
  let above := below + 1
  match inside below, inside above with
  | true, true =>
    if mid * scale - below * step < above * step - mid * scale then some ⟨below, place⟩
    else some ⟨above, place⟩
  | true, false => some ⟨below, place⟩
  | false, true => some ⟨above, place⟩
  | false, false => none

/-- The first grid with a decimal in the interval, from `place` down. The last
    resort is the number itself in units of its last place. -/
def shortestFrom (x : Binary64) (place : Int) : Nat → Decimal
  | 0 => ⟨x.significand, 0⟩
  | grids + 1 =>
    match x.onGrid? place with
    | some d => d
    | none => shortestFrom x (place - 1) grids

/-- The decimal with the fewest digits that reads back as the magnitude of
    `x`, a finite number other than zero, and the nearest of those. -/
def shortest (x : Binary64) : Decimal :=
  -- Three tenths are just below the decimal logarithm of two.
  let guess := ((x.significand.log2 : Int) + x.exponent) * 1233 / 4096 + 2
  (x.shortestFrom (floorLog10From x.numerator x.denominator guess 5) 20).trim 20

/-- The text of a number. -/
def render (x : Binary64) : List Char :=
  if x.isNaN then ['N', 'a', 'N']
  else
    let magnitude :=
      if x.isInfinite then ['i', 'n', 'f']
      else if x.isZero then ['0', '.', '0']
      else x.shortest.render
    if x.isNegative then '-' :: magnitude else magnitude

end Binary64

end ShapeMatch
