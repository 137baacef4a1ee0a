import Workflow.Number.Double

/-!
The shortest decimal text that reads back as the same double. It is positional for decimal orders
from -4 to 15, with at least one digit after the point, and otherwise has an exponent with a sign
and at least two digits.
-/
namespace Workflow.Double

/-- The power of ten just above a quotient of the size of a double: ten to the power `order - 1` is
at most the quotient and ten to the power `order` is above it. The binary orders of both numbers
leave two powers to choose from; 30103 to 100000 is the ratio of the logarithms of two and ten, near
enough for the powers of two in question. -/
def decimalOrder (num den : Nat) : Int :=
  let binary : Int := (num.log2 : Int) - den.log2 - 1
  let low := Int.fdiv (binary * 30103) 100000 + 1
  if num * Nat.pow 10 (-low).toNat < den * Nat.pow 10 low.toNat then low else low + 1

/-- The digits of the two neighbours of a quotient on the grid of ten to the power `exponent`. -/
def gridNeighbours (num den : Nat) (exponent : Int) : Nat × Nat × Bool :=
  let top := num * Nat.pow 10 (-exponent).toNat
  let bottom := den * Nat.pow 10 exponent.toNat
  let below := top / bottom
  let rest := top % bottom
  (below, below + 1, 2 * rest < bottom || (2 * rest == bottom && below % 2 == 0))

/-- The digits on one grid that read back, the nearer first. -/
def onGrid? (x : Double) (exponent : Int) : Option Nat :=
  let r := x.ratio
  let (below, above, lowFirst) := gridNeighbours r.1 r.2 exponent
  let candidates := if lowFirst then [below, above] else [above, below]
  candidates.find? fun digits => ofDecimal x.isNegative digits exponent == x

/-- The fewest digits that read back, tried for one digit, then two, and at most seventeen. -/
def shortest (x : Double) : Nat × Int :=
  let r := x.ratio
  let order := decimalOrder r.1 r.2
  let attempt (count : Nat) : Option (Nat × Int) :=
    let exponent := order - (count + 1 : Nat)
    (onGrid? x exponent).map (·, exponent)
  ((List.range 17).findSome? attempt).getD (0, 0)

def dropTrailingZeros (digits : List Char) : List Char :=
  (digits.reverse.dropWhile (· == '0')).reverse

/-- Places the point among digits; `order` digits stand before it. -/
def positional (digits : List Char) (order : Int) : List Char :=
  if order ≤ 0 then '0' :: '.' :: List.replicate (-order).toNat '0' ++ digits
  else
    let whole := digits.take order.toNat
    let rest := digits.drop order.toNat
    whole ++ List.replicate (order.toNat - digits.length) '0' ++
      '.' :: (if rest.isEmpty then ['0'] else rest)

/-- At least two digits and a sign. -/
def exponentText (exponent : Int) : List Char :=
  let digits := Nat.toDigits 10 exponent.natAbs
  'e' :: (if exponent < 0 then '-' else '+') ::
    (if digits.length < 2 then '0' :: digits else digits)

def scientific (digits : List Char) (order : Int) : List Char :=
  let rest := digits.drop 1
  digits.take 1 ++ (if rest.isEmpty then [] else '.' :: rest) ++ exponentText (order - 1)

def finiteChars (x : Double) : List Char :=
  if x.isZero then ['0', '.', '0']
  else
    let (digits, exponent) := shortest x
    let all := Nat.toDigits 10 digits
    let order := exponent + all.length
    let kept := dropTrailingZeros all
    if -4 < order && order ≤ 16 then positional kept order else scientific kept order

/-- The text of a number; the infinities and not-a-number have words. -/
def chars (x : Double) : List Char :=
  if x.isNaN then ['n', 'a', 'n']
  else
    let magnitude := if x.isInfinite then ['i', 'n', 'f'] else finiteChars x
    if x.isNegative then '-' :: magnitude else magnitude

def text (x : Double) : String := String.ofList x.chars

end Workflow.Double
