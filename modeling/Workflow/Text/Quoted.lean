import Workflow.Text.Printable

/-!
Quoted display text. The quote is an apostrophe unless the text holds an apostrophe and no double
quote; backslash, the quote in use, line feed, carriage return and tab have short escapes, and any
other unprintable character is written by its code point in hexadecimal. A surrogate without its
pair is no character; the last private characters stand for such code points in a text.
-/
namespace Workflow.Text

/-- The character that stands for an unpaired surrogate. -/
def surrogateChar (point : Nat) : Char := Char.ofNat (0x10F800 + (point - 0xD800))

def isSurrogate (c : Char) : Bool := 0x10F800 ≤ c.toNat

/-- The code point that a character is or stands for. -/
def codePoint (c : Char) : Nat :=
  if isSurrogate c then 0xD800 + (c.toNat - 0x10F800) else c.toNat

/-- Whether a text is made of characters only. -/
def isUnicode (s : String) : Bool := s.toList.all (!isSurrogate ·)

/-- A hexadecimal digit in lower case. -/
def hexDigit (n : Nat) : Char :=
  if n < 10 then Char.ofNat (48 + n) else Char.ofNat (87 + n)

/-- The last `width` hexadecimal digits of a number. -/
def hexDigits : Nat → Nat → List Char
  | 0, _ => []
  | width + 1, n => hexDigits width (n / 16) ++ [hexDigit (n % 16)]

def quoteFor (cs : List Char) : Char :=
  if cs.contains '\'' && !cs.contains '"' then '"' else '\''

def quotedChar (quote c : Char) : List Char :=
  if c == quote || c == '\\' then ['\\', c]
  else if c == '\n' then ['\\', 'n']
  else if c == '\r' then ['\\', 'r']
  else if c == '\t' then ['\\', 't']
  else if c.toNat < 0x7F && 0x20 ≤ c.toNat || isPrintable c then [c]
  else if codePoint c < 0x100 then '\\' :: 'x' :: hexDigits 2 (codePoint c)
  else if codePoint c < 0x10000 then '\\' :: 'u' :: hexDigits 4 (codePoint c)
  else '\\' :: 'U' :: hexDigits 8 (codePoint c)

def quotedChars (cs : List Char) : List Char :=
  let quote := quoteFor cs
  quote :: cs.flatMap (quotedChar quote) ++ [quote]

def quoted (s : String) : String := String.ofList (quotedChars s.toList)

end Workflow.Text
