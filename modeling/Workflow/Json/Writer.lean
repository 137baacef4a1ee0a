import Workflow.Number.Shortest
import Workflow.Text.Quoted
import Workflow.Value

/-!
JSON text of values. Fixed sequences are written as arrays, an unreadable object as an empty one,
and a foreign value as its text, unless the writer is strict and refuses it. The words for
infinities and not-a-number are those the reader takes. Keys that are constants or numbers are
written as names; a value with any other key that is no text, or with a part without text, cannot
be written.
-/
namespace Workflow.Json

/-- Separators and the characters that are escaped. -/
structure Style where
  itemSeparator : List Char
  keySeparator : List Char
  asciiOnly : Bool

/-- One blank after commas and colons. -/
def spaced : Style := ⟨[',', ' '], [':', ' '], false⟩

/-- One blank after commas and colons, characters beyond ASCII escaped. -/
def spacedAscii : Style := ⟨[',', ' '], [':', ' '], true⟩

/-- No blanks. -/
def compact : Style := ⟨[','], [':'], false⟩

def unicodeEscape (n : Nat) : List Char := '\\' :: 'u' :: Text.hexDigits 4 n

/-- Two escapes beyond the first 65536 code points. -/
def escapedPoint (n : Nat) : List Char :=
  if n < 0x10000 then unicodeEscape n
  else
    let offset := n - 0x10000
    unicodeEscape (0xD800 + offset / 0x400) ++ unicodeEscape (0xDC00 + offset % 0x400)

def charText (asciiOnly : Bool) (c : Char) : List Char :=
  if c = '"' then ['\\', '"']
  else if c = '\\' then ['\\', '\\']
  else if c = '\n' then ['\\', 'n']
  else if c = '\r' then ['\\', 'r']
  else if c = '\t' then ['\\', 't']
  else if c.toNat = 12 then ['\\', 'f']
  else if c.toNat = 8 then ['\\', 'b']
  else if c.toNat < 0x20 || (asciiOnly && 0x7E < c.toNat) then
    escapedPoint (Text.codePoint c)
  else [c]

def stringText (asciiOnly : Bool) (s : String) : List Char :=
  '"' :: s.toList.flatMap (charText asciiOnly) ++ ['"']

def floatText (x : Double) : List Char :=
  if x.isNaN then "NaN".toList
  else if x.isInfinite then (if x.isNegative then "-Infinity" else "Infinity").toList
  else x.chars

/-- The name that a key is written as. -/
def nameOf : Key → String
  | .null => "null"
  | .bool b => if b then "true" else "false"
  | .float x => String.ofList (floatText x)
  | key => key.display

mutual

def chars (style : Style) : Value → List Char
  | .null => "null".toList
  | .bool b => (if b then "true" else "false").toList
  | .int n => (toString n).toList
  | .float x => floatText x
  | .str s => stringText style.asciiOnly s
  | .list items => '[' :: itemChars style items ++ [']']
  | .tuple items => '[' :: itemChars style items ++ [']']
  | .dict entries => '{' :: entryChars style entries ++ ['}']
  | .keyed keys values =>
    let member (key : Key) (value : List Char) : List Char :=
      stringText style.asciiOnly (nameOf key) ++ style.keySeparator ++ value
    '{' :: style.itemSeparator.intercalate (List.zipWith member keys (texts style values)) ++ ['}']
  | .foreign object => stringText style.asciiOnly (object.text.toOption.getD "")
  | .unreadable _ => ['{', '}']

/-- The text of each value. -/
def texts (style : Style) : List Value → List (List Char)
  | [] => []
  | value :: rest => chars style value :: texts style rest

def itemChars (style : Style) : List Value → List Char
  | [] => []
  | [item] => chars style item
  | item :: rest => chars style item ++ style.itemSeparator ++ itemChars style rest

def entryChars (style : Style) : List (String × Value) → List Char
  | [] => []
  | [(key, value)] => stringText style.asciiOnly key ++ style.keySeparator ++ chars style value
  | (key, value) :: rest =>
    stringText style.asciiOnly key ++ style.keySeparator ++ chars style value ++
      style.itemSeparator ++ entryChars style rest

end

def write (style : Style) (v : Value) : String := String.ofList (chars style v)

/-- A new line, indented by two blanks a level. -/
def lineBreak (level : Nat) : List Char := '\n' :: List.replicate (2 * level) ' '

mutual

/-- One item or entry a line; empty containers stay on their line. -/
def indentedChars (level : Nat) : Value → List Char
  | .list items => indentedArray level items
  | .tuple items => indentedArray level items
  | .dict entries =>
    if entries.isEmpty then ['{', '}']
    else '{' :: lineBreak (level + 1) ++ indentedEntries (level + 1) entries ++
      lineBreak level ++ ['}']
  | .keyed keys values =>
    let member (key : Key) (value : List Char) : List Char :=
      lineBreak (level + 1) ++ stringText false (nameOf key) ++ ':' :: ' ' :: value
    '{' :: [','].intercalate (List.zipWith member keys (indentedTexts (level + 1) values)) ++
      lineBreak level ++ ['}']
  | .null => "null".toList
  | .bool b => (if b then "true" else "false").toList
  | .int n => (toString n).toList
  | .float x => floatText x
  | .str s => stringText false s
  | .foreign object => stringText false (object.text.toOption.getD "")
  | .unreadable _ => ['{', '}']

def indentedTexts (level : Nat) : List Value → List (List Char)
  | [] => []
  | value :: rest => indentedChars level value :: indentedTexts level rest

def indentedArray (level : Nat) : List Value → List Char
  | [] => ['[', ']']
  | item :: rest =>
    '[' :: lineBreak (level + 1) ++ indentedChars (level + 1) item ++
      indentedItems (level + 1) rest ++ lineBreak level ++ [']']

def indentedItems (level : Nat) : List Value → List Char
  | [] => []
  | item :: rest => ',' :: lineBreak level ++ indentedChars level item ++ indentedItems level rest

def indentedEntries (level : Nat) : List (String × Value) → List Char
  | [] => []
  | [(key, value)] => stringText false key ++ ':' :: ' ' :: indentedChars level value
  | (key, value) :: rest =>
    stringText false key ++ ':' :: ' ' :: indentedChars level value ++
      ',' :: lineBreak level ++ indentedEntries level rest

end

/-! ### What has no JSON form -/

/-- What writing a key as a name raises. -/
def unnameable? : Key → Option Raised
  | .other typeName _ =>
    some ⟨"TypeError", s!"keys must be str, int, float, bool or None, not {typeName}"⟩
  | key => key.untold?

mutual

/-- What writing a value raises, for its first part that cannot be written. A strict writer refuses
foreign values; any other writes their texts. -/
def unwritable? (strict : Bool) : Value → Option Raised
  | .int n => if Text.isOverlong n then some .overlong else none
  | .list items => unwritableAmong? strict items
  | .tuple items => unwritableAmong? strict items
  | .dict entries => unwritableInEntries? strict entries
  | .keyed keys values => unwritableKeyed? strict keys values
  | .foreign object =>
    if strict then
      some ⟨"TypeError", s!"Object of type {object.typeName} is not JSON serializable"⟩
    else match object.text with
      | .error e => some e.1
      | .ok _ => none
  | _ => none

def unwritableAmong? (strict : Bool) : List Value → Option Raised
  | [] => none
  | item :: rest => (unwritable? strict item).or (unwritableAmong? strict rest)

def unwritableInEntries? (strict : Bool) : List (String × Value) → Option Raised
  | [] => none
  | (_, value) :: rest => (unwritable? strict value).or (unwritableInEntries? strict rest)

def unwritableKeyed? (strict : Bool) (keys : List Key) : List Value → Option Raised
  | [] => none
  | value :: rest =>
    ((keys.head?.bind unnameable?).or (unwritable? strict value)).or
      (unwritableKeyed? strict keys.tail rest)

end

mutual

/-- How deep a value nests for the writer, for which a foreign value is a level too. -/
def levels : Value → Nat
  | .list items => levelsAmong items + 1
  | .tuple items => levelsAmong items + 1
  | .dict entries => levelsInEntries entries + 1
  | .keyed _ values => levelsAmong values + 1
  | .foreign _ => 1
  | .unreadable _ => 1
  | _ => 0

def levelsAmong : List Value → Nat
  | [] => 0
  | item :: rest => max (levels item) (levelsAmong rest)

def levelsInEntries : List (String × Value) → Nat
  | [] => 0
  | (_, value) :: rest => max (levels value) (levelsInEntries rest)

end

/-- What writing a value raises where the stack of the interpreter has room for some levels. -/
def unwritableWithin? (room : Nat) (v : Value) : Option Raised :=
  if room < levels v then
    some ⟨"RecursionError", "maximum recursion depth exceeded while encoding a JSON object"⟩
  else unwritable? false v

/-- Writes a value that can be written. -/
def writeChecked (strict : Bool) (style : Style) (v : Value) : Except Raised String :=
  match unwritable? strict v with
  | some e => .error e
  | none => .ok (write style v)

/-- Writes a value over several lines, if it can be written. -/
def writeIndented (v : Value) : Except Raised String :=
  match unwritable? false v with
  | some e => .error e
  | none => .ok (String.ofList (indentedChars 0 v))

end Workflow.Json
