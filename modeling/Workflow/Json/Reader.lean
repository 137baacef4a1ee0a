import Workflow.Value.Misuse

/-!
Reading JSON text. White space is space, tab, line feed and carriage return only; integers of any
size are read up to the numeral limit, a fraction or an exponent makes a double, and the words for
infinities and not-a-number are accepted. A repeated name keeps its first position and its last
value. An error tells what was expected and where.
-/
namespace Workflow.Json

inductive Fault where
  | byteOrderMark
  | expectedValue
  | expectedName
  | expectedColon
  | expectedComma
  | extraData
  | unterminatedString
  | controlCharacter
  | badEscape
  | badUnicodeEscape
  deriving DecidableEq, Repr

def Fault.message : Fault → String
  | byteOrderMark => "Unexpected UTF-8 BOM (decode using utf-8-sig)"
  | expectedValue => "Expecting value"
  | expectedName => "Expecting property name enclosed in double quotes"
  | expectedColon => "Expecting ':' delimiter"
  | expectedComma => "Expecting ',' delimiter"
  | extraData => "Extra data"
  | unterminatedString => "Unterminated string starting at"
  | controlCharacter => "Invalid control character at"
  | badEscape => "Invalid \\escape"
  | badUnicodeEscape => "Invalid \\uXXXX escape"

/-- Why reading stopped in front of the unread text `rest`: a fault, or an integer of too many
digits. -/
inductive Stop where
  | fault (fault : Fault) (rest : List Char)
  | numeral (digits : Nat) (rest : List Char)

def Stop.rest : Stop → List Char
  | .fault _ rest => rest
  | .numeral _ rest => rest

def isJsonSpace (c : Char) : Bool := c == ' ' || c == '\t' || c == '\n' || c == '\r'

def skipSpace (cs : List Char) : List Char := cs.dropWhile isJsonSpace

/-! ### Strings -/

def hexValue? (c : Char) : Option Nat :=
  if '0' ≤ c && c ≤ '9' then some (c.toNat - 48)
  else if 'a' ≤ c && c ≤ 'f' then some (c.toNat - 87)
  else if 'A' ≤ c && c ≤ 'F' then some (c.toNat - 55)
  else none

/-- The number that four hexadecimal digits write. -/
def hexUnit? (digits : List Char) : Option Nat :=
  digits.foldl (fun n? c => n?.bind fun n => (hexValue? c).map (16 * n + ·)) (some 0)

def isHighSurrogate (n : Nat) : Bool := 0xD800 ≤ n && n ≤ 0xDBFF
def isLowSurrogate (n : Nat) : Bool := 0xDC00 ≤ n && n ≤ 0xDFFF

/-- The character of an escape that stands alone. -/
def scalarChar (n : Nat) : Char :=
  if isHighSurrogate n || isLowSurrogate n then Text.surrogateChar n else Char.ofNat n

def pairedChar (high low : Nat) : Char :=
  Char.ofNat (0x10000 + (high - 0xD800) * 0x400 + (low - 0xDC00))

/-- Four hexadecimal digits after the `u` that `start` begins with. At least one more character
has to follow them. -/
def unicodeUnit (start : List Char) : Except Stop (Nat × List Char) :=
  let digits := (start.drop 1).take 4
  let rest := start.drop 5
  if rest.isEmpty then .error (.fault .badUnicodeEscape start)
  else match hexUnit? digits with
    | some n => .ok (n, rest)
    | none => .error (.fault .badUnicodeEscape start)

/-- A high surrogate joins with the low one that directly follows it. -/
def unicodeEscaped (start : List Char) : Except Stop (Char × List Char) := do
  let (unit, rest) ← unicodeUnit start
  if isHighSurrogate unit && !(rest.drop 6).isEmpty && rest.take 2 == ['\\', 'u'] then
    let (next, after) ← unicodeUnit (rest.drop 1)
    if isLowSurrogate next then return (pairedChar unit next, after)
    else return (scalarChar unit, rest)
  else return (scalarChar unit, rest)

def simpleEscape? (c : Char) : Option Char :=
  [('"', '"'), ('\\', '\\'), ('/', '/'), ('b', Char.ofNat 8), ('f', Char.ofNat 12), ('n', '\n'),
    ('r', '\r'), ('t', '\t')].lookup c

/-- The character that the escape at the backslash `cs` begins with stands for. -/
def escaped (opening cs : List Char) : Except Stop (Char × List Char) :=
  match cs.drop 1 with
  | [] => .error (.fault .unterminatedString opening)
  | c :: rest =>
    if c = 'u' then unicodeEscaped (c :: rest)
    else match simpleEscape? c with
      | some value => .ok (value, rest)
      | none => .error (.fault .badEscape cs)

/-- The characters of a string up to its closing quote. `opening` is the text from the opening
quote on. -/
def stringBody (opening : List Char) : Nat → List Char → Except Stop (List Char × List Char)
  | 0, _ => .error (.fault .unterminatedString opening)
  | _ + 1, [] => .error (.fault .unterminatedString opening)
  | fuel + 1, c :: rest =>
    if c = '"' then .ok ([], rest)
    else if c = '\\' then do
      let (value, rest) ← escaped opening (c :: rest)
      let (body, rest) ← stringBody opening fuel rest
      return (value :: body, rest)
    else if c.toNat < 0x20 then .error (.fault .controlCharacter (c :: rest))
    else do
      let (body, rest) ← stringBody opening fuel rest
      return (c :: body, rest)

/-! ### Numbers and words -/

def isAsciiDigit (c : Char) : Bool := '0' ≤ c && c ≤ '9'

/-- The digits before the point: a zero alone, or digits that do not start with zero. -/
def wholeDigits (cs : List Char) : List Char :=
  match cs with
  | '0' :: _ => ['0']
  | _ => cs.takeWhile isAsciiDigit

/-- A point and at least one digit. -/
def fractionPart? (cs : List Char) : Option (List Char × List Char) :=
  match cs with
  | '.' :: rest =>
    let digits := rest.takeWhile isAsciiDigit
    if digits.isEmpty then none else some (digits, rest.dropWhile isAsciiDigit)
  | _ => none

/-- Where an exponent stops growing. No text has enough digits to make up for a larger one. -/
def exponentLimit : Nat := 1000000000

/-- An exponent mark, an optional sign, and at least one digit. -/
def exponentPart? (cs : List Char) : Option (Int × List Char) :=
  match cs with
  | mark :: rest =>
    if mark = 'e' || mark = 'E' then
      let negative := rest.head? == some '-'
      let unsigned := if negative || rest.head? == some '+' then rest.drop 1 else rest
      let digits := unsigned.takeWhile isAsciiDigit
      if digits.isEmpty then none
      else
        let size : Int := Text.cappedValue exponentLimit digits
        some (if negative then -size else size, unsigned.dropWhile isAsciiDigit)
    else none
  | [] => none

def number (cs : List Char) : Except Stop (Value × List Char) :=
  let negative := cs.head? == some '-'
  let unsigned := if negative then cs.drop 1 else cs
  let whole := wholeDigits unsigned
  let rest := unsigned.drop whole.length
  if whole.isEmpty then .error (.fault .expectedValue cs)
  else
    match fractionPart? rest, exponentPart? ((fractionPart? rest).elim rest (·.2)) with
    | none, none =>
      if Text.numeralLimit < whole.length then .error (.numeral whole.length cs)
      else
        let size : Int := Text.numeralValue whole
        .ok (.int (if negative then -size else size), rest)
    | fraction?, exponent? =>
      let fraction := fraction?.elim [] (·.1)
      let rest := fraction?.elim rest (·.2)
      let exponent := exponent?.elim 0 (·.1)
      .ok (.float (Double.ofDigits negative (whole ++ fraction) (exponent - fraction.length)),
        exponent?.elim rest (·.2))

def words : List (List Char × Value) := [
  ("null".toList, .null), ("true".toList, .bool true), ("false".toList, .bool false),
  ("NaN".toList, .float Double.nan), ("Infinity".toList, .float (Double.infinity false)),
  ("-Infinity".toList, .float (Double.infinity true))]

/-- A word that stands for a value, or a number. -/
def scalar (cs : List Char) : Except Stop (Value × List Char) :=
  match words.find? fun word => word.1.isPrefixOf cs with
  | some (word, value) => .ok (value, cs.drop word.length)
  | none => number cs

/-! ### Values -/

mutual

/-- One value. A level of nesting takes two units of fuel and at least one character. -/
def value : Nat → List Char → Except Stop (Value × List Char)
  | 0, cs => .error (.fault .expectedValue cs)
  | _ + 1, [] => .error (.fault .expectedValue [])
  | fuel + 1, c :: rest =>
    if c = '"' then do
      let (body, rest) ← stringBody (c :: rest) (fuel + 1) rest
      return (.str (String.ofList body), rest)
    else if c = '[' then
      match skipSpace rest with
      | ']' :: after => .ok (.list [], after)
      | inside => do
        let (found, after) ← items fuel inside
        return (.list found, after)
    else if c = '{' then
      match skipSpace rest with
      | '}' :: after => .ok (.dict [], after)
      | inside => do
        let (found, after) ← members fuel [] inside
        return (.dict found, after)
    else scalar (c :: rest)

/-- The items of an array from the next one to the closing bracket. -/
def items : Nat → List Char → Except Stop (List Value × List Char)
  | 0, cs => .error (.fault .expectedValue cs)
  | fuel + 1, cs => do
    let (first, rest) ← value fuel cs
    match skipSpace rest with
    | ']' :: after => return ([first], after)
    | ',' :: after =>
      let (others, after) ← items fuel (skipSpace after)
      return (first :: others, after)
    | unexpected => .error (.fault .expectedComma unexpected)

/-- The members of an object, put onto those already read, to the closing brace. -/
def members : Nat → List (String × Value) → List Char →
    Except Stop (List (String × Value) × List Char)
  | 0, _, cs => .error (.fault .expectedName cs)
  | fuel + 1, found, cs =>
    match cs with
    | '"' :: rest => do
      let (name, rest) ← stringBody cs (fuel + 1) rest
      match skipSpace rest with
      | ':' :: rest =>
        let (first, rest) ← value fuel (skipSpace rest)
        let found := Entries.put (String.ofList name) first found
        match skipSpace rest with
        | '}' :: after => return (found, after)
        | ',' :: after => members fuel found (skipSpace after)
        | unexpected => .error (.fault .expectedComma unexpected)
      | unexpected => .error (.fault .expectedColon unexpected)
    | unexpected => .error (.fault .expectedName unexpected)

end

/-- Reads one value with nothing but white space around it. -/
def document (cs : List Char) : Except Stop Value :=
  if cs.head? == some (Char.ofNat 0xFEFF) then .error (.fault .byteOrderMark cs)
  else do
    let (found, rest) ← value (2 * cs.length + 2) (skipSpace cs)
    match skipSpace rest with
    | [] => return found
    | extra => .error (.fault .extraData extra)

/-! ### Errors with positions -/

/-- A place in a text: characters before it, its line, and its column, both counted from one. -/
structure Position where
  offset : Nat
  line : Nat
  column : Nat
  deriving DecidableEq, Repr

/-- The place just after some text. -/
def Position.after (before : List Char) : Position :=
  ⟨before.length, before.count '\n' + 1, (before.reverse.takeWhile (· != '\n')).length + 1⟩

inductive Error where
  | malformed (fault : Fault) (position : Position)
  | numeral (digits : Nat)
  deriving DecidableEq, Repr

def Error.message : Error → String
  | malformed fault position =>
    s!"{fault.message}: line {position.line} column {position.column} (char {position.offset})"
  | numeral digits => Text.tooManyDigits digits

def Stop.toError (cs : List Char) : Stop → Error
  | .fault cause rest => .malformed cause (.after (cs.take (cs.length - rest.length)))
  | .numeral digits _ => .numeral digits

/-- Reads a JSON text. -/
def parse (text : String) : Except Error Value :=
  (document text.toList).mapError (Stop.toError text.toList)

/-- Reads a text that may be JSON; any other text stands for itself. -/
def parseOrText (text : String) : Value :=
  match parse text with
  | .ok value => value
  | .error _ => .str text

/-! ### Nesting

The arrays and objects that are being read stand on the stack of the interpreter, which has room for
so many of them. Reading raises at the bracket for which there is no room, if it gets there. -/

/-- The part of a text up to where reading it stops. -/
def readPart (cs : List Char) : List Char :=
  match document cs with
  | .ok _ => cs
  | .error stop => cs.take (cs.length - stop.rest.length)

/-- What reading one level too many raises. -/
def tooDeep (container : String) : Raised :=
  ⟨"RecursionError",
    s!"maximum recursion depth exceeded while decoding a JSON {container} from a unicode string"⟩

/-- Follows the brackets of a text, but for those in strings, with room for some more levels. -/
def overflowAmong? : Nat → Bool → List Char → Option Raised
  | _, _, [] => none
  | room, true, '\\' :: _ :: rest => overflowAmong? room true rest
  | room, true, c :: rest => overflowAmong? room (c != '"') rest
  | room, false, '"' :: rest => overflowAmong? room true rest
  | 0, false, '[' :: _ => some (tooDeep "array")
  | room + 1, false, '[' :: rest => overflowAmong? room false rest
  | 0, false, '{' :: _ => some (tooDeep "object")
  | room + 1, false, '{' :: rest => overflowAmong? room false rest
  | room, false, c :: rest =>
    overflowAmong? (if c = ']' ∨ c = '}' then room + 1 else room) false rest

/-- What reading a text raises that nests deeper than there is room for. -/
def overflow? (room : Nat) (text : String) : Option Raised :=
  overflowAmong? room false (readPart text.toList)

end Workflow.Json
