import Workflow.Value

/-!
Misuse of values: what goes wrong when a value is taken for something that it is not. A message
names the value's type, of which it shows a limited number of bytes.
-/
namespace Workflow

namespace Text

/-- What shows in place of a character that is not whole. -/
def replacement : Char := Char.ofNat 0xFFFD

/-- The characters that fit into some bytes of UTF-8. Of one that fits only in part a replacement
shows. -/
def clippedChars : Nat → List Char → List Char
  | _, [] => []
  | room, c :: rest =>
    if room = 0 then []
    else if c.utf8Size ≤ room then c :: clippedChars (room - c.utf8Size) rest
    else [replacement]

/-- A text cut to at most `room` bytes of UTF-8. -/
def clipped (room : Nat) (text : String) : String :=
  String.ofList (clippedChars room text.toList)

end Text

/-- What was asked of a value in vain, and the value's type. -/
inductive Misuse where
  /-- An entry under a key. -/
  | entries (typeName : String)
  /-- To go through its items. -/
  | items (typeName : String)
  /-- Whether it holds some item. -/
  | members (typeName : String)
  /-- To be searched as a text. -/
  | text (typeName : String)
  /-- To be a key itself. -/
  | key (typeName : String)
  deriving DecidableEq, Repr

namespace Misuse

/-- The name of a type where an entry is asked for. -/
def shortName (typeName : String) : String := Text.clipped 50 typeName

/-- The name of a type in all other messages. -/
def longName (typeName : String) : String := Text.clipped 200 typeName

def message : Misuse → String
  | entries typeName => s!"'{shortName typeName}' object has no attribute 'get'"
  | items typeName => s!"'{longName typeName}' object is not iterable"
  | members typeName => s!"argument of type '{longName typeName}' is not iterable"
  | text typeName => s!"expected string or bytes-like object, got '{longName typeName}'"
  | key typeName => s!"unhashable type: '{longName typeName}'"

/-- The class of the exception that a misuse raises. -/
def kind : Misuse → String
  | entries _ => "AttributeError"
  | _ => "TypeError"

end Misuse

namespace Value

/-- The entries that an object shows. -/
def askEntries (v : Value) : Except Misuse (List (String × Value)) :=
  match v.shownEntries? with
  | some entries => .ok entries
  | none => .error (.entries v.typeName)

/-- The items that a value goes through. -/
def askItems (v : Value) : Except Misuse (List Value) :=
  match v.items? with
  | some items => .ok items
  | none => .error (.items v.typeName)

end Value
end Workflow
