import Workflow.Text.Digit

/-!
Double-precision numbers as 64-bit patterns, with exact rounding in natural-number arithmetic. A
finite nonzero number is its significand times two to the power `scale`.
-/
namespace Workflow

structure Double where
  bits : UInt64
  deriving DecidableEq, Repr

namespace Double

def isNegative (x : Double) : Bool := x.bits.toNat / Nat.pow 2 63 == 1
def exponentField (x : Double) : Nat := x.bits.toNat / Nat.pow 2 52 % 2048
def fractionField (x : Double) : Nat := x.bits.toNat % Nat.pow 2 52

def isNaN (x : Double) : Bool := x.exponentField == 2047 && x.fractionField != 0
def isInfinite (x : Double) : Bool := x.exponentField == 2047 && x.fractionField == 0
def isFinite (x : Double) : Bool := x.exponentField != 2047
def isZero (x : Double) : Bool := x.exponentField == 0 && x.fractionField == 0

def significand (x : Double) : Nat :=
  if x.exponentField = 0 then x.fractionField else Nat.pow 2 52 + x.fractionField

def scale (x : Double) : Int := (max 1 x.exponentField : Nat) - 1075

/-- The magnitude of a finite number as a fraction. -/
def ratio (x : Double) : Nat × Nat :=
  (x.significand * Nat.pow 2 x.scale.toNat, Nat.pow 2 (-x.scale).toNat)

/-- The bits of a magnitude under a sign. -/
def ofMagnitude (negative : Bool) (magnitude : Nat) : Double :=
  ⟨UInt64.ofNat ((if negative then Nat.pow 2 63 else 0) + magnitude)⟩

/-- The bits of positive infinity, one above the largest finite magnitude. -/
def infinityBits : Nat := 2047 * Nat.pow 2 52

def infinity (negative : Bool) : Double := ofMagnitude negative infinityBits
def zero (negative : Bool) : Double := ofMagnitude negative 0
def nan : Double := ⟨UInt64.ofNat (2047 * Nat.pow 2 52 + Nat.pow 2 51)⟩

/-- The integer nearest to a quotient; a tie goes to the even one. -/
def roundQuotient (num den : Nat) : Nat :=
  let q := num / den
  let twice := 2 * (num % den)
  if twice < den then q else if den < twice then q + 1 else q + q % 2

/-- A quotient in units of two to the power `exponent`, as a quotient of naturals. -/
def unitsOf (num den : Nat) (exponent : Int) : Nat × Nat :=
  (num * Nat.pow 2 (-exponent).toNat, den * Nat.pow 2 exponent.toNat)

/-- The number nearest to a quotient; a tie goes to the even significand, and what rounds past the
largest finite number is infinite. A significand that rounds up to the next power of two carries
into the exponent field. -/
def ofRatio (negative : Bool) (num den : Nat) : Double :=
  if num = 0 then zero negative
  else
    let low : Int := max ((num.log2 : Int) - den.log2 - 53) (-1074)
    let scaled := unitsOf num den low
    let exponent := if Nat.pow 2 53 ≤ scaled.1 / scaled.2 then low + 1 else low
    let units := unitsOf num den exponent
    let magnitude := (exponent + 1074).toNat * Nat.pow 2 52 + roundQuotient units.1 units.2
    ofMagnitude negative (min magnitude infinityBits)

def ofInt (n : Int) : Double := ofRatio (n < 0) n.natAbs 1

/-- The number nearest to `digits` times ten to the power `exponent`. Exponents far outside the
range are decided by the digit count alone. -/
def ofDecimal (negative : Bool) (digits : Nat) (exponent : Int) : Double :=
  if digits = 0 then zero negative
  else
    let order := exponent + (Nat.toDigits 10 digits).length
    if 400 < order then infinity negative
    else if order < -400 then zero negative
    else ofRatio negative (digits * Nat.pow 10 exponent.toNat) (Nat.pow 10 (-exponent).toNat)

/-- How many significant digits of a numeral are taken in. A midpoint between two neighbouring
doubles has fewer, so of the digits behind those it only matters whether all of them are zero. -/
def decisiveDigits : Nat := 800

/-- The number nearest to the one that decimal digits write times ten to the power `exponent`. One
more digit stands for those that are not taken in and are not all zero. -/
def ofDigits (negative : Bool) (digits : List Char) (exponent : Int) : Double :=
  let significant := digits.dropWhile (· == '0')
  let rest := significant.drop decisiveDigits
  let size := Text.numeralValue (significant.take decisiveDigits)
  if rest.all (· == '0') then ofDecimal negative size (exponent + rest.length)
  else ofDecimal negative (10 * size + 1) (exponent + rest.length - 1)

/-- A finite number that is whole, as an integer. -/
def toInt? (x : Double) : Option Int :=
  let r := x.ratio
  if x.isFinite && r.1 % r.2 == 0 then
    some (if x.isNegative then -(r.1 / r.2 : Nat) else (r.1 / r.2 : Nat))
  else none

/-- Greater than zero; not-a-number is not. -/
def isPositive (x : Double) : Bool := !x.isNegative && !x.isZero && !x.isNaN

end Double
end Workflow
