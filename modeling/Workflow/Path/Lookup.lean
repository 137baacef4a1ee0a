import Workflow.Path
import Workflow.Schema
import Workflow.Text.Blank
import Workflow.Value.Copy

/-!
Walking a path from the outputs of earlier steps. Each way to fail has its own cause, which names
the node where the walk stopped and shows that node's summary.
-/
namespace Workflow

/-- What the steps that have completed stored, by step id in order of completion. -/
abbrev Outputs := List (String × Value)

/-- Why an expression could not be resolved. `place` is the path walked so far. -/
inductive ResolutionCause where
  | malformed (fault : Path.Fault)
  | notExecuted (step : String)
  | missingProperty (key place : String) (schema : Schema)
  | propertyOfArray (key place : String) (length : Nat) (schema : Schema)
  | indexOutOfRange (index length : Nat) (schema : Schema)
  | primitive (segment : Segment) (place : String) (schema : Schema)
  | notArray (index : Nat) (place : String) (schema : Schema)

def ResolutionCause.message : ResolutionCause → String
  | malformed fault => fault.message
  | notExecuted step => s!"Step \"{step}\" has not been executed yet"
  | missingProperty key place schema =>
    s!"property \"{key}\" not found on {place}. Available keys and types: {schema.text}"
  | propertyOfArray key place length schema =>
    s!"property \"{key}\" not found: {place} is an array of length {length}. " ++
      s!"Element schema: {schema.text}"
  | indexOutOfRange index length schema =>
    s!"index {index} is out of bounds for array of length {length}. Element schema: {schema.text}"
  | primitive segment place schema =>
    s!"cannot read \"{segment.text}\": {place} is a {schema.kindName} value ({schema.text}) " ++
      "and has no addressable sub-properties"
  | notArray index place schema =>
    s!"cannot apply index [{index}] to {place}: it is not an array. Actual schema: {schema.text}"

structure ResolutionError where
  expression : String
  cause : ResolutionCause

def ResolutionError.message (e : ResolutionError) : String :=
  "\x7b\x7b" ++ e.expression ++ "\x7d\x7d: " ++ e.cause.message

/-- Why a walk stopped: a cause to report, or a node that cannot be summarised for the report. -/
inductive WalkError where
  | cause (cause : ResolutionCause)
  | unreadable (cause : Unreadable)

/-- What keeps a template from being resolved. -/
inductive ResolveError where
  | unresolved (error : ResolutionError)
  | numeral (cause : Text.NumeralError)
  | uncopyable (message : String)
  | unreadable (cause : Unreadable)
  /-- A value inside a longer string has no text. -/
  | untold (cause : Raised)

def ResolveError.message : ResolveError → String
  | unresolved error => error.message
  | numeral cause => cause.message
  | uncopyable message => message
  | unreadable cause => cause.message
  | untold cause => cause.text

def ResolveError.ofCopy : CopyError → ResolveError
  | .refused message => uncopyable message
  | .unreadable cause => unreadable cause

namespace Path

/-- Reports a cause with the summary of the node at hand. -/
def blame (node : Value) (cause : Schema → ResolutionCause) : Except WalkError Value :=
  match Schema.infer node with
  | .ok schema => .error (.cause (cause schema))
  | .error unreadable => .error (.unreadable unreadable)

def itemAt (items : List Value) (index : Nat) : Except WalkError Value :=
  match items[index]? with
  | some item => .ok item
  | none => blame (.list items) (.indexOutOfRange index items.length)

/-- One hop from a node. A bracket applies to arrays only, a dotted index to arrays and as a key to
objects. A hop finds no keys but texts. -/
def hop (place : String) (node : Value) (segment : Segment) : Except WalkError Value :=
  match segment, node with
  | .bracket index, .list items => itemAt items index
  | .bracket index, _ => blame node (.notArray index place)
  | .dotted index, .list items => itemAt items index
  | .key name, .list items => blame node (.propertyOfArray name place items.length)
  | _, .dict entries =>
    match entries.lookup segment.text with
    | some value => .ok value
    | none => blame node (.missingProperty segment.text place)
  | _, .keyed keys values =>
    match (Value.textEntries keys values).lookup segment.text with
    | some value => .ok value
    | none => blame node (.missingProperty segment.text place)
  | _, .unreadable _ => blame node (.missingProperty segment.text place)
  | _, _ => blame node (.primitive segment place)

def walk (place : String) (node : Value) : List Segment → Except WalkError Value
  | [] => .ok node
  | segment :: rest => do
    let next ← hop place node segment
    walk (place ++ hopText segment) next rest

/-- Stored values have lost their envelope, so a leading `result` counts only where the value has
such a key. -/
def skipResult (node : Value) : List Segment → List Segment
  | .key name :: rest =>
    if name = "result" && (node.field? "result").isNone then rest else .key name :: rest
  | segments => segments

end Path

/-- The node that an expression names. Blanks around the expression do not matter. -/
def lookup (expression : String) (outputs : Outputs) : Except ResolveError Value :=
  let expression := Text.trim expression
  let unresolved (cause : ResolutionCause) : ResolveError := .unresolved ⟨expression, cause⟩
  match Path.parse expression with
  | .error (.malformed fault) => .error (unresolved (.malformed fault))
  | .error (.numeral cause) => .error (.numeral cause)
  | .ok path =>
    match outputs.lookup path.step with
    | none => .error (unresolved (.notExecuted path.step))
    | some node =>
      match Path.walk path.step node (Path.skipResult node path.segments) with
      | .ok value => .ok value
      | .error (.cause cause) => .error (unresolved cause)
      | .error (.unreadable cause) => .error (.unreadable cause)

end Workflow
