import ShapeMatch.Binary64.Arithmetic
import ShapeMatch.Binary64.Decimal
import ShapeMatch.Json.Document

/-!
# Numerals

The number that the parts of a JSON numeral stand for.

The digits of a numeral are gathered in a coefficient of 64 bits. The first
digit that does not fit ends the gathering on its side of the point. In front
of the point it and the digits after it still count as places, behind the point
they count for nothing.

The number is the coefficient, rounded, times the power of ten, rounded again.
So it is the nearest one as long as the coefficient has at most 53 bits and the
power of ten is at most `1e22`, and may be a neighbour of that beyond.

A numeral without fraction and exponent whose digits all fit is an integer if
it is in range, except that a negative zero is not.

## Main definitions

* `Numeral`: The parts of a numeral.
* `Decimal.pushWhole`, `Decimal.pushPlaces`: Gathering the digits.
* `Decimal.scaled`: The number of a decimal, rounded twice.
* `Numeral.value?`: The number of a numeral, unless it is out of range.
-/

namespace ShapeMatch

/-- The value of a decimal digit. -/
def digitValue (c : Char) : Nat := c.toNat - '0'.toNat

namespace Decimal

/-- The coefficient with a digit at its end. -/
def push (d : Decimal) (c : Char) : Decimal := ⟨10 * d.coefficient + digitValue c, d.exponent⟩

/-- Whether the coefficient with a digit at its end still fits 64 bits. -/
def fits (d : Decimal) (c : Char) : Bool := (d.push c).coefficient < UInt64.size

/-- Gather digits in front of the point. All from the first on that does not
    fit are places. -/
def pushWhole (d : Decimal) : List Char → Decimal
  | [] => d
  | c :: rest =>
    if d.fits c then (d.push c).pushWhole rest
    else ⟨d.coefficient, d.exponent + (rest.length + 1)⟩

/-- Gather digits behind the point. All from the first on that does not fit
    are ignored. -/
def pushPlaces (d : Decimal) : List Char → Decimal
  | [] => d
  | c :: rest =>
    if d.fits c then pushPlaces ⟨(d.push c).coefficient, d.exponent - 1⟩ rest else d

/-- The number of a decimal with a sign: its coefficient rounded, then scaled
    and rounded again. -/
def scaled (negative : Bool) (d : Decimal) : Binary64 :=
  let whole := Binary64.nearest negative d.coefficient 1
  if 0 ≤ d.exponent then whole.mulPowerOfTen d.exponent.toNat
  else whole.divPowerOfTen (-d.exponent).toNat

end Decimal

namespace Json

/-- The parts of a numeral: its sign, the digits in front of the point, those
    behind it and the exponent of ten, the last two if they are written. -/
structure Numeral where
  negative : Bool
  whole : List Char
  fraction : Option (List Char)
  exponent : Option Int

/-- The coefficient and the power of ten of a numeral. -/
def Numeral.decimal (n : Numeral) : Decimal :=
  let d := ((Decimal.mk 0 0).pushWhole n.whole).pushPlaces (n.fraction.getD [])
  ⟨d.coefficient, d.exponent + n.exponent.getD 0⟩

/-- Whether a numeral is written without fraction and exponent. -/
def Numeral.isWhole (n : Numeral) : Bool := n.fraction.isNone && n.exponent.isNone

/-- The integer with a sign and a magnitude, if it is in range and not a
    negative zero. -/
def integer? (negative : Bool) (magnitude : Nat) : Option Number :=
  let value : Int := if negative then -magnitude else magnitude
  if negative ∧ magnitude = 0 then none
  else if Int64.minValue.toInt ≤ value ∧ value ≤ Int64.maxValue.toInt then
    some (.signed (.ofInt value))
  else if !negative ∧ magnitude < UInt64.size then some (.unsigned (.ofNat magnitude))
  else none

/-- The binary64 number of a decimal with a sign, unless that is infinite. -/
def real? (negative : Bool) (d : Decimal) : Option Number :=
  let x := d.scaled negative
  if x.isFinite then some (.real x) else none

/-- The number of a numeral, unless it is out of range. -/
def Numeral.value? (n : Numeral) : Option Number :=
  let d := n.decimal
  let exact := if n.isWhole && d.exponent = 0 then integer? n.negative d.coefficient else none
  exact <|> real? n.negative d

end Json

end ShapeMatch
