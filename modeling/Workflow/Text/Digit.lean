import Workflow.Text.Quoted

/-!
Digits of all scripts and the numerals written with them. A decimal digit (category Nd) has a value
from 0 to 9 and its script's ten digits are consecutive; some further characters, such as
superscripts and circled digits, count as digits without being decimal.
-/
namespace Workflow.Text

/-- The code points of the digit zero in each script (Unicode 14). -/
def decimalZeros : List Nat := [
  0x30, 0x660, 0x6f0, 0x7c0, 0x966, 0x9e6, 0xa66, 0xae6, 0xb66, 0xbe6, 0xc66, 0xce6, 0xd66, 0xde6,
  0xe50, 0xed0, 0xf20, 0x1040, 0x1090, 0x17e0, 0x1810, 0x1946, 0x19d0, 0x1a80, 0x1a90, 0x1b50,
  0x1bb0, 0x1c40, 0x1c50, 0xa620, 0xa8d0, 0xa900, 0xa9d0, 0xa9f0, 0xaa50, 0xabf0, 0xff10, 0x104a0,
  0x10d30, 0x11066, 0x110f0, 0x11136, 0x111d0, 0x112f0, 0x11450, 0x114d0, 0x11650, 0x116c0,
  0x11730, 0x118e0, 0x11950, 0x11c50, 0x11d50, 0x11da0, 0x16a60, 0x16ac0, 0x16b50, 0x1d7ce,
  0x1d7d8, 0x1d7e2, 0x1d7ec, 0x1d7f6, 0x1e140, 0x1e2f0, 0x1e950, 0x1fbf0]

/-- Digits that are not decimal, as closed ranges (Unicode 14). -/
def nonDecimalDigitRanges : List (Nat × Nat) := [
  (0xb2, 0xb3), (0xb9, 0xb9), (0x1369, 0x1371), (0x19da, 0x19da), (0x2070, 0x2070),
  (0x2074, 0x2079), (0x2080, 0x2089), (0x2460, 0x2468), (0x2474, 0x247c), (0x2488, 0x2490),
  (0x24ea, 0x24ea), (0x24f5, 0x24fd), (0x24ff, 0x24ff), (0x2776, 0x277e), (0x2780, 0x2788),
  (0x278a, 0x2792), (0x10a40, 0x10a43), (0x10e60, 0x10e68), (0x11052, 0x1105a), (0x1f100, 0x1f10a)]

/-- The value of a decimal digit of any script. -/
def decimalValue? (c : Char) : Option Nat :=
  (decimalZeros.find? fun first => first ≤ c.toNat && c.toNat < first + 10).map (c.toNat - ·)

def isDecimal (c : Char) : Bool := (decimalValue? c).isSome

/-- A decimal digit or one of the further digit characters. -/
def isDigit (c : Char) : Bool :=
  isDecimal c || nonDecimalDigitRanges.any fun range => range.1 ≤ c.toNat && c.toNat ≤ range.2

/-- The number that decimal digits write, most significant first. -/
def numeralValue (digits : List Char) : Nat :=
  digits.foldl (fun n c => 10 * n + (decimalValue? c).getD 0) 0

/-- The number that decimal digits write, as far as it counts: once the limit is reached, the digits
that are left change nothing. -/
def cappedValue (limit : Nat) (digits : List Char) : Nat :=
  digits.foldl (fun n c => if n < limit then 10 * n + (decimalValue? c).getD 0 else n) 0

/-- The longest numeral that is read as an integer. -/
def numeralLimit : Nat := 4300

/-- Why a text of digit characters is no integer. -/
inductive NumeralError where
  | tooLong (digits : Nat)
  | notDecimal (text : List Char)
  deriving DecidableEq, Repr

/-- The text that refuses a numeral of too many digits. -/
def tooManyDigits (digits : Nat) : String :=
  s!"Exceeds the limit ({numeralLimit} digits) for integer string conversion: value has " ++
    s!"{digits} digits; use sys.set_int_max_str_digits() to increase the limit"

/-- An integer of too many digits has no text. -/
def isOverlong (n : Int) : Bool := numeralLimit < (Nat.toDigits 10 n.natAbs).length

/-- The text that refuses to write an integer of too many digits. -/
def tooManyToWrite : String :=
  s!"Exceeds the limit ({numeralLimit} digits) for integer string conversion; use " ++
    "sys.set_int_max_str_digits() to increase the limit"

/-- A refused text is shown quoted, at most 200 characters of it. -/
def NumeralError.message : NumeralError → String
  | tooLong digits => tooManyDigits digits
  | notDecimal text =>
    "invalid literal for int() with base 10: " ++ String.ofList ((quotedChars text).take 200)

/-- Reads a numeral. Its leading decimal digits are counted, leading zeros too, before the rest of
the text is looked at. -/
def readNumeral (text : List Char) : Except NumeralError Nat :=
  let digits := text.takeWhile isDecimal
  if numeralLimit < digits.length then .error (.tooLong digits.length)
  else if digits.length = text.length && !text.isEmpty then .ok (numeralValue digits)
  else .error (.notDecimal text)

end Workflow.Text
