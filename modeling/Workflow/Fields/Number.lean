import Workflow.Fields
import Workflow.Text.Blank

/-!
Number and truth fields. They take numbers of either kind where nothing is lost, truth values, and
texts that write a number; single underscores may group its digits.
-/
namespace Workflow.Fields

def isAsciiDigit (c : Char) : Bool := '0' ≤ c && c ≤ '9'

/-- Whether an underscore directly follows another. -/
def hasPairedUnderscores : List Char → Bool
  | c :: rest => (c == '_' && rest.head? == some '_') || hasPairedUnderscores rest
  | [] => false

/-- Removes underscores, unless one stands at an end or next to another. -/
def withoutUnderscores? (cs : List Char) : Option (List Char) :=
  if cs.head? == some '_' || cs.getLast? == some '_' || hasPairedUnderscores cs then none
  else some (cs.filter (· != '_'))

/-! ### Doubles -/

/-- A sign and the text behind it. -/
def splitSign (cs : List Char) : Bool × List Char :=
  match cs with
  | '-' :: rest => (true, rest)
  | '+' :: rest => (false, rest)
  | _ => (false, cs)

/-- Where an exponent stops growing: no digit behind is taken in. -/
def exponentLimit : Nat := 65536

/-- An exponent that the text consists of, zero for no text. -/
def exponentOf? (cs : List Char) : Option Int :=
  match cs with
  | [] => some 0
  | mark :: rest =>
    let (negative, digits) := splitSign rest
    if (mark = 'e' || mark = 'E') && !digits.isEmpty && digits.all isAsciiDigit then
      let size : Int := Text.cappedValue exponentLimit digits
      some (if negative then -size else size)
    else none

/-- Digits with an optional point among or around them, and an optional exponent. -/
def decimalOf? (negative : Bool) (cs : List Char) : Option Double :=
  let whole := cs.takeWhile isAsciiDigit
  let rest := cs.dropWhile isAsciiDigit
  let pointed := rest.head? == some '.'
  let fraction := if pointed then (rest.drop 1).takeWhile isAsciiDigit else []
  let tail := if pointed then (rest.drop 1).dropWhile isAsciiDigit else rest
  if whole.isEmpty && fraction.isEmpty then none
  else (exponentOf? tail).map fun exponent =>
    Double.ofDigits negative (whole ++ fraction) (exponent - fraction.length)

/-- The double that a text writes, with words for the infinities and not-a-number. -/
def doubleOfText? (cs : List Char) : Option Double :=
  let (negative, rest) := splitSign cs
  let word := rest.map Char.toLower
  if word = "inf".toList || word = "infinity".toList then some (Double.infinity negative)
  else if word = "nan".toList then some Double.nan
  else decimalOf? negative rest

def double : Value → Except Fault Double
  | .float x => .ok x
  | .int n =>
    let x := Double.ofInt n
    if x.isInfinite then .error .notNumber else .ok x
  | .bool b => .ok (Double.ofInt (if b then 1 else 0))
  | .str text =>
    let cs := text.toList
    match doubleOfText? (Text.strip Text.isSpace cs) with
    | some x => .ok x
    | none =>
      match (withoutUnderscores? cs).bind doubleOfText? with
      | some x => .ok x
      | none => .error .unparsableNumber
  | _ => .error .notNumber

def positiveDouble (v : Value) : Except Fault Double := do
  let x ← double v
  if x.isPositive then return x else .error .notPositive

/-! ### Integers -/

/-- A minus sign, if there is one, and the text behind it. -/
def splitMinus (cs : List Char) : Bool × List Char :=
  match cs with
  | '-' :: rest => (true, rest)
  | _ => (false, cs)

/-- The text after the leading zeros of a numeral and the underscores among them; of zeros alone the
last character stays, and a zero in front of a point. Only a digit or a minus sign may come
first. -/
def withoutLeadingZeros? (cs : List Char) : Option (List Char) :=
  let starts (c : Char) : Bool := isAsciiDigit c || c == '-'
  match cs with
  | '0' :: rest =>
    let skipped := rest.takeWhile fun c => c == '0' || c == '_'
    match rest.drop skipped.length with
    | [] => some (cs.drop (cs.length - 1))
    | '.' :: tail => some (((('0' :: skipped).getLast?).getD '0') :: '.' :: tail)
    | c :: tail => if starts c then some (c :: tail) else none
  | c :: _ => if starts c then some cs else none
  | [] => none

/-- Drops a point followed by zeros only, of which there has to be one. -/
def withoutZeroFraction (cs : List Char) : List Char :=
  let zeros := (cs.dropWhile (· != '.')).drop 1
  if !zeros.isEmpty && zeros.all (· == '0') then cs.takeWhile (· != '.') else cs

/-- A trimmed text brought to the plain form of an integer, if it is one: no plus sign, no leading
zeros, no fraction of zeros and no underscores. What is no integer may get through. -/
def plainInteger? (cs : List Char) : Option (List Char) := do
  let unsigned := if cs.head? == some '+' then cs.drop 1 else cs
  let (negative, rest) := splitMinus unsigned
  if cs.head? == some '+' && negative then none
  let significant ← withoutLeadingZeros? rest
  let whole := withoutZeroFraction significant
  let digits := (withoutUnderscores? whole).getD whole
  return if negative then '-' :: digits else digits

/-- Whether a text starts with an integer of more digits than can be read. A zero in front is an
integer by itself, so no long one starts with it. -/
def startsOversized (cs : List Char) : Bool :=
  let digits := (splitMinus cs).2.takeWhile isAsciiDigit
  digits.head? != some '0' && Text.numeralLimit < digits.length

/-- Digits that write a natural number in the one way that counts: no zero in front of others, and
no more of them than can be read. -/
def isPlainNumeral (digits : List Char) : Bool :=
  digits.all isAsciiDigit && !digits.isEmpty && (digits.head? != some '0' || digits.length == 1)
    && digits.length ≤ Text.numeralLimit

/-- The integer that a text in plain form writes. -/
def signedNumeral? (cs : List Char) : Option Int :=
  let (negative, digits) := splitMinus cs
  if isPlainNumeral digits then
    let size : Int := Text.numeralValue digits
    some (if negative then -size else size)
  else none

/-- The integer that a text writes. Only a text that starts with too long an integer, as it stands,
is told apart from one that writes none: once blanks, a plus sign, zeros or underscores have to go
first, its length is a fault like any other. -/
def integerOfText (cs : List Char) : Except Fault Int :=
  if startsOversized cs then .error .oversizedInteger
  else match (plainInteger? (Text.strip Text.isSpace cs)).bind signedNumeral? with
    | some n => .ok n
    | none => .error .unparsableInteger

/-- The number of integers on either side of zero that fit 64 signed bits. -/
def integerRange : Nat := Nat.pow 2 63

def integerOfDouble (x : Double) : Except Fault Int :=
  if !x.isFinite then .error .notFinite
  else match x.toInt? with
    | none => .error .fractionalInteger
    | some n => if n.natAbs < integerRange then .ok n else .error .oversizedInteger

def integer : Value → Except Fault Int
  | .int n => .ok n
  | .bool b => .ok (if b then 1 else 0)
  | .float x => integerOfDouble x
  | .str text => integerOfText text.toList
  | _ => .error .notInteger

def positiveInteger (v : Value) : Except Fault Nat := do
  let n ← integer v
  if 0 < n then return n.toNat else .error .notPositive

/-! ### Truth values -/

def trueWords : List String := ["1", "on", "t", "true", "y", "yes"]
def falseWords : List String := ["0", "off", "f", "false", "n", "no"]

/-- Zero and one. Other integers are told apart by whether they fit 64 signed bits. -/
def truthOfInt (n : Int) : Except Fault Bool :=
  if n = 0 then .ok false
  else if n = 1 then .ok true
  else if -(integerRange : Int) ≤ n && n < integerRange then .error .unknownBoolean
  else .error .notBoolean

def boolean : Value → Except Fault Bool
  | .bool b => .ok b
  | .int n => truthOfInt n
  | .float x =>
    match integerOfDouble x with
    | .ok n => truthOfInt n
    | .error _ => .error .notBoolean
  | .str text =>
    let word := String.ofList (text.toList.map Char.toLower)
    if word ∈ trueWords then .ok true
    else if word ∈ falseWords then .ok false
    else .error .unknownBoolean
  | _ => .error .notBoolean

/-- One of a few fixed words. -/
def choice {α : Type} (choices : String) (read : String → Option α) : Value → Except Fault α
  | .str s =>
    match read s with
    | some found => .ok found
    | none => .error (.notChoice choices)
  | _ => .error (.notChoice choices)

end Workflow.Fields
