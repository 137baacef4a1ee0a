import Workflow.Number.Shortest
import Workflow.Entries

/-!
Values that programs, tools and hosts exchange: JSON-shaped data, fixed sequences, and three kinds
that come from tools only. A foreign value has a type name and a text and nothing inside that can
be addressed; an unreadable object looks empty, but listing its entries fails; and a keyed object
has keys of any kind. Some values have no text: asking for it raises.
-/
namespace Workflow

/-- An exception: the name of its class and its text. -/
structure Raised where
  kind : String
  text : String
  deriving DecidableEq, Repr

namespace Raised

/-- The text, or the class name of an exception without text. -/
def description (e : Raised) : String := if e.text = "" then e.kind else e.text

/-- What asking for the text of an integer of too many digits raises. -/
def overlong : Raised := ⟨"ValueError", Text.tooManyToWrite⟩

/-- An exception about which something can be told. -/
abbrev Told : Type := { e : Raised // e.description ≠ "" }

end Raised

/-- An exception as it leaves what raises it. -/
inductive Thrown where
  | told (e : Raised)
  /-- One whose text cannot be asked for, since this raises another one. -/
  | untold (cause : Thrown)
  /-- One that ends the program, which nothing here catches. -/
  | exit (e : Raised)
  deriving DecidableEq, Repr

/-- What there is to tell about a caught exception. Otherwise one leaves where it is caught. -/
def Thrown.description : Thrown → Except Thrown String
  | told e => .ok e.description
  | untold cause => .error cause
  | exit e => .error (exit e)

instance decidableEqExcept {ε α : Type} [DecidableEq ε] [DecidableEq α] : DecidableEq (Except ε α)
  | .ok a, .ok b => decidable_of_iff (a = b) (by simp)
  | .error e, .error f => decidable_of_iff (e = f) (by simp)
  | .ok _, .error _ => .isFalse nofun
  | .error _, .ok _ => .isFalse nofun

/-- A value of a type that is not known. Asking for its text may raise, and so may testing it. -/
structure Foreign where
  typeName : String
  text : Except Raised.Told String
  truth : Except Raised.Told Bool
  copyError : Option String
  deriving DecidableEq

/-- A key of an object, text or not. One of another kind than these has a type name and a text. -/
inductive Key where
  | text (s : String)
  | null
  | bool (b : Bool)
  | int (n : Int)
  | float (x : Double)
  | other (typeName shown : String)
  deriving DecidableEq

namespace Key

def text? : Key → Option String
  | text s => some s
  | _ => none

/-- The text of a key. -/
def display : Key → String
  | text s => s
  | null => "None"
  | bool b => if b then "True" else "False"
  | int n => toString n
  | float x => x.text
  | other _ shown => shown

/-- What asking for the text of a key raises. -/
def untold? : Key → Option Raised
  | int n => if Text.isOverlong n then some .overlong else none
  | _ => none

end Key

inductive Value where
  | null
  | bool (b : Bool)
  | int (n : Int)
  | float (x : Double)
  | str (s : String)
  | list (items : List Value)
  | tuple (items : List Value)
  | dict (entries : List (String × Value))
  /-- An object with a key that is no text; keys and values pair up in order. -/
  | keyed (keys : List Key) (values : List Value)
  | foreign (object : Foreign)
  | unreadable (message : String)
  deriving Inhabited

/-- The entries of an unreadable object were asked for, or a key has no text. -/
structure Unreadable where
  message : String
  deriving DecidableEq, Repr

namespace Value

/-- What counts as present: everything but null, false, zero, and the empty text and containers. A
foreign value decides by itself, if it can be tested. -/
def truthy : Value → Bool
  | null => false
  | bool b => b
  | int n => n != 0
  | float x => !x.isZero
  | str s => s != ""
  | list items => !items.isEmpty
  | tuple items => !items.isEmpty
  | dict entries => !entries.isEmpty
  | keyed keys _ => !keys.isEmpty
  | foreign object => object.truth.toOption.getD true
  | unreadable _ => false

/-- What testing a value raises. -/
def untested? : Value → Option Raised
  | foreign object => match object.truth with
    | .error e => some e.1
    | .ok _ => none
  | _ => none

/-- Tests a value. -/
def test (v : Value) : Except Raised Bool :=
  match v.untested? with
  | some e => .error e
  | none => .ok v.truthy

/-- The entries of a keyed object whose keys are texts. -/
def textEntries (keys : List Key) (values : List Value) : List (String × Value) :=
  (keys.zip values).filterMap fun (key, value) => key.text?.map (·, value)

theorem textEntries_text (s : String) (keys : List Key) (value : Value) (values : List Value) :
    textEntries (.text s :: keys) (value :: values) = (s, value) :: textEntries keys values := rfl

theorem textEntries_other {key : Key} (other : key.text? = none) (keys : List Key) (value : Value)
    (values : List Value) :
    textEntries (key :: keys) (value :: values) = textEntries keys values := by
  simp [textEntries, other]

/-- The entries that an object shows under texts without being listed. -/
def shownEntries? : Value → Option (List (String × Value))
  | dict entries => some entries
  | keyed keys values => some (textEntries keys values)
  | unreadable _ => some []
  | _ => none

/-- The entry under a key, of objects only. An unreadable object shows none. -/
def field? (key : String) (v : Value) : Option Value := v.shownEntries?.bind (·.lookup key)

/-- Only an object has an entry. -/
theorem exists_of_field {v inner : Value} {key : String} (found : v.field? key = some inner) :
    ∃ entries, v.shownEntries? = some entries ∧ entries.lookup key = some inner :=
  Option.bind_eq_some_iff.1 found

/-- An object with an entry counts as present. -/
theorem truthy_of_entry {v : Value} {entries : List (String × Value)} {entry : String × Value}
    (shown : v.shownEntries? = some entries) (member : entry ∈ entries) : v.truthy = true := by
  cases v with
  | dict _ =>
    cases shown
    cases entries with
    | nil => cases member
    | cons first rest => rfl
  | keyed keys values =>
    cases shown
    cases keys with
    | nil => cases member
    | cons key keys => rfl
  | unreadable message =>
    cases shown
    cases member
  | _ => cases shown

@[simp]
theorem field?_dict (key : String) (entries : List (String × Value)) :
    (dict entries).field? key = entries.lookup key := rfl

/-- The key as a value of its own. -/
def ofKey : Key → Value
  | .text s => str s
  | .null => null
  | .bool b => bool b
  | .int n => int n
  | .float x => float x
  | .other typeName shown => foreign ⟨typeName, .ok shown, .ok true, none⟩

/-- The items that a value goes through: of a text its characters, of an object its keys. -/
def items? : Value → Option (List Value)
  | list items => some items
  | tuple items => some items
  | str s => some (s.toList.map fun c => str (String.singleton c))
  | dict entries => some (entries.map fun entry => str entry.1)
  | keyed keys _ => some (keys.map ofKey)
  | unreadable _ => some []
  | _ => none

def isObject (v : Value) : Bool := v.shownEntries?.isSome

mutual

/-- The kind of a value that cannot be a key: a list, an object, or a fixed sequence of one. -/
def unhashable? : Value → Option String
  | list _ => some "list"
  | dict _ => some "dict"
  | keyed .. => some "dict"
  | unreadable _ => some "dict"
  | tuple items => unhashableAmong? items
  | _ => none

def unhashableAmong? : List Value → Option String
  | [] => none
  | item :: rest =>
    match unhashable? item with
    | some kind => some kind
    | none => unhashableAmong? rest

end

/-- The name of a value's type. -/
def typeName : Value → String
  | null => "NoneType"
  | bool _ => "bool"
  | int _ => "int"
  | float _ => "float"
  | str _ => "str"
  | list _ => "list"
  | tuple _ => "tuple"
  | dict _ => "dict"
  | keyed .. => "dict"
  | foreign object => object.typeName
  | unreadable _ => "dict"

end Value
end Workflow
