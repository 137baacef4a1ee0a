import Workflow.Text.Digit
import Workflow.Text.Split

/-!
Paths into step outputs: a step id followed by property names and indices. A dotted part of digits
alone is an index too; indices may also stand in brackets behind a name or behind a dot.
-/
namespace Workflow

/-- One hop of a path. -/
inductive Segment where
  | key (name : String)
  | dotted (index : Nat)
  | bracket (index : Nat)
  deriving DecidableEq, Repr

def Segment.text : Segment → String
  | key name => name
  | dotted index => toString index
  | bracket index => s!"[{index}]"

structure Path where
  step : String
  segments : List Segment
  deriving DecidableEq, Repr

namespace Path

/-- How a text fails to be a path. -/
inductive Fault where
  | empty
  | malformedPart (part : String)
  | missingStep
  deriving DecidableEq, Repr

def Fault.message : Fault → String
  | empty => "empty placeholder"
  | malformedPart part => s!"malformed path segment \"{part}\""
  | missingStep => "missing step id"

inductive Error where
  | malformed (fault : Fault)
  | numeral (cause : Text.NumeralError)
  deriving DecidableEq, Repr

/-- The digit texts of the bracketed indices that a text consists of. `open?` holds the digits read
since the last opening bracket, the latest first. One line feed may end the text after an index. -/
def brackets? (open? : Option (List Char)) : List Char → Option (List (List Char))
  | [] => if open?.isNone then some [] else none
  | c :: rest =>
    match open? with
    | none =>
      if c = '[' then brackets? (some []) rest
      else if c = '\n' && rest.isEmpty then some []
      else none
    | some digits =>
      if Text.isDecimal c then brackets? (some (c :: digits)) rest
      else if c = ']' && !digits.isEmpty then (brackets? none rest).map (digits.reverse :: ·)
      else none

def isBracket (c : Char) : Bool := c == '[' || c == ']'

/-- A part between dots: a name and the digit texts of the indices behind it, not both absent. -/
def part? (part : List Char) : Option (List Char × List (List Char)) :=
  let name := part.takeWhile (!isBracket ·)
  (brackets? none (part.dropWhile (!isBracket ·))).bind fun indices =>
    if name.isEmpty && indices.isEmpty then none else some (name, indices)

/-- A name of digits alone is an index. -/
def ofName (name : List Char) : Except Text.NumeralError (List Segment) :=
  if name.isEmpty then .ok []
  else if name.all Text.isDigit then (fun index => [.dotted index]) <$> Text.readNumeral name
  else .ok [.key (String.ofList name)]

def ofIndices : List (List Char) → Except Text.NumeralError (List Segment)
  | [] => .ok []
  | digits :: rest => do
    let index ← Text.readNumeral digits
    let segments ← ofIndices rest
    return .bracket index :: segments

def readPart (part : List Char) : Except Error (List Char × List (List Char)) :=
  match part? part with
  | some found => .ok found
  | none => .error (.malformed (.malformedPart (String.ofList part)))

/-- The segments of the parts behind the first dot. -/
def ofParts : List (List Char) → Except Error (List Segment)
  | [] => .ok []
  | part :: rest => do
    let (name, indices) ← readPart part
    let named ← (ofName name).mapError .numeral
    let indexed ← (ofIndices indices).mapError .numeral
    let segments ← ofParts rest
    return named ++ indexed ++ segments

/-- Reads a path. The part before the first dot names the step. -/
def parse (expression : String) : Except Error Path :=
  match Text.splitOn '.' expression.toList with
  | [] => .error (.malformed .empty)
  | first :: rest =>
    if expression.toList.isEmpty then .error (.malformed .empty)
    else do
      let (step, indices) ← readPart first
      if step.isEmpty then throw (.malformed .missingStep)
      let indexed ← (ofIndices indices).mapError .numeral
      let segments ← ofParts rest
      return ⟨String.ofList step, indexed ++ segments⟩

/-- A hop with what separates it from the text before. -/
def hopText : Segment → String
  | .bracket index => s!"[{index}]"
  | segment => "." ++ segment.text

/-- The written form: a dot before each name and dotted index, none before a bracket. -/
def spell (path : Path) : String :=
  path.segments.foldl (fun text segment => text ++ hopText segment) path.step

end Path
end Workflow
