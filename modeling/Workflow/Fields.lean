import Workflow.Value.Display

/-!
Reading records from the entries of an object. Every field is checked, and all problems are
reported together, in the order of declaration.
-/
namespace Workflow.Fields

/-- What is wrong with a field, or with a record as a whole. -/
inductive Fault where
  | missing
  | notString
  /-- A text of restricted length with an unpaired surrogate. -/
  | notUnicode
  /-- Keys that are no texts, by their display texts. -/
  | notStringKeys (keys : List String)
  /-- A number with too many digits for a text. Reading stops at once. -/
  | overlong
  | emptyString
  | notObject
  | unlistable (message : String)
  | notStep
  | notPositive
  | notNumber
  | unparsableNumber
  | notInteger
  | unparsableInteger
  | fractionalInteger
  | oversizedInteger
  | notFinite
  | notBoolean
  | unknownBoolean
  | notChoice (choices : String)
  | duplicateStep (id : String)
  deriving DecidableEq, Repr

def Fault.message : Fault → String
  | missing => "Field required"
  | notString => "Input should be a valid string"
  | notUnicode =>
    "Input should be a valid string, unable to parse raw data as a unicode string"
  | notStringKeys _ => "Input should be a valid string"
  | overlong => Raised.overlong.text
  | emptyString => "String should have at least 1 character"
  | notObject => "Input should be a valid dictionary"
  | unlistable message =>
    "Input should be a valid mapping, error: ValueError" ++
      (if message = "" then "" else ": " ++ message)
  | notStep => "Input should be a valid dictionary or instance of Step"
  | notPositive => "Input should be greater than 0"
  | notNumber => "Input should be a valid number"
  | unparsableNumber => "Input should be a valid number, unable to parse string as a number"
  | notInteger => "Input should be a valid integer"
  | unparsableInteger => "Input should be a valid integer, unable to parse string as an integer"
  | fractionalInteger => "Input should be a valid integer, got a number with a fractional part"
  | oversizedInteger =>
    "Unable to parse input string as an integer, exceeded maximum size"
  | notFinite => "Input should be a finite number"
  | notBoolean => "Input should be a valid boolean"
  | unknownBoolean => "Input should be a valid boolean, unable to interpret input"
  | notChoice choices => "Input should be " ++ choices
  | duplicateStep id => s!"Value error, duplicate step id \"{id}\""

/-- A fault and the path of the field that has it; a record as a whole has no path. -/
structure Problem where
  location : List String
  fault : Fault
  deriving DecidableEq, Repr

/-- The paths of what has the fault: the field, or keys of the object in it. -/
def Problem.places (p : Problem) : List (List String) :=
  match p.fault with
  | .notStringKeys keys => keys.map fun key => p.location ++ [key, "[key]"]
  | _ => [p.location]

def Problem.message (p : Problem) : String :=
  "; ".intercalate <| p.places.map fun place =>
    if place.isEmpty then p.fault.message else ".".intercalate place ++ ": " ++ p.fault.message

/-- All problems in one line. -/
def report (problems : List Problem) : String :=
  "; ".intercalate (problems.map Problem.message)

abbrev Checked (α : Type) := Except (List Problem) α

def Checked.problems {α : Type} : Checked α → List Problem
  | .ok _ => []
  | .error found => found

/-- A field whose value is checked by `read`, under the location of its record. -/
def required {α : Type} (location : List String) (fields : List (String × Value)) (name : String)
    (read : Value → Except Fault α) : Checked α :=
  match fields.lookup name with
  | none => .error [⟨location ++ [name], .missing⟩]
  | some value => (read value).mapError fun fault => [⟨location ++ [name], fault⟩]

/-- A field that stands for `default` when it is absent. -/
def optional {α : Type} (location : List String) (fields : List (String × Value)) (name : String)
    (default : α) (read : Value → Except Fault α) : Checked α :=
  match fields.lookup name with
  | none => .ok default
  | some value => (read value).mapError fun fault => [⟨location ++ [name], fault⟩]

/-! ### Kinds of field -/

def string : Value → Except Fault String
  | .str s => .ok s
  | _ => .error .notString

/-- The text of an integer. -/
def decimal (n : Int) : Except Fault String :=
  if Text.isOverlong n then .error .overlong else .ok (toString n)

/-- A string, or a number by its text. -/
def label : Value → Except Fault String
  | .str s => .ok s
  | .int n => decimal n
  | .float x => .ok x.text
  | _ => .error .notString

/-- A text of at least one character. -/
def nonempty (read : Value → Except Fault String) (v : Value) : Except Fault String := do
  let s ← read v
  if !Text.isUnicode s then .error .notUnicode
  else if s = "" then .error .emptyString else return s

/-- Null, or what `read` accepts. -/
def nullable {α : Type} (read : Value → Except Fault α) : Value → Except Fault (Option α)
  | .null => .ok none
  | v => some <$> read v

/-- A key that is a text. -/
def textKey : Key → Except Fault String
  | .text s => .ok s
  | _ => .error .notString

/-- A key that is a text, or a number by its text. -/
def labelKey : Key → Except Fault String
  | .text s => .ok s
  | .int n => decimal n
  | .float x => .ok x.text
  | _ => .error .notString

/-- The texts of keys, unless some of them have none. -/
def keyTexts (read : Key → Except Fault String) (keys : List Key) : Except Fault (List String) :=
  let refused := keys.filter fun key => (read key).toOption.isNone
  if keys.any fun key => read key matches .error .overlong then .error .overlong
  else if refused.isEmpty then .ok (keys.filterMap fun key => (read key).toOption)
  else .error (.notStringKeys (refused.map Key.display))

/-- The entries of an object, which are listed: an unreadable one has none. Its keys are read by
`read`. -/
def entries (read : Key → Except Fault String) : Value → Except Fault (List (String × Value))
  | .dict entries => .ok entries
  | .keyed keys values =>
    (fun texts => Entries.ofPairs (texts.zip values)) <$> keyTexts read keys
  | .unreadable message => .error (.unlistable message)
  | _ => .error .notObject

def anything (v : Value) : Except Fault Value := .ok v

end Workflow.Fields
