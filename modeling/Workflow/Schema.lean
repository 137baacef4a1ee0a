import Workflow.Json.Writer
import Workflow.Text.Case

/-!
Structural summaries of values. A summary keeps the keys of objects, each as its text, and replaces
leaves by the name of their kind; an array is summarised by its first item.
-/
namespace Workflow

inductive Schema where
  | leaf (kind : String)
  | emptyArray
  | array (item : Schema)
  | object (fields : List (String × Schema))
  deriving Inhabited

namespace Schema

/-- The key of a summary that stands for a key. -/
def keyText (key : Key) : Except Unreadable String :=
  match key.untold? with
  | some e => .error ⟨e.text⟩
  | none => .ok key.display

mutual

/-- The summary of a value. An unreadable object has none, and neither has a key without text. -/
def infer : Value → Except Unreadable Schema
  | .null => .ok (leaf "null")
  | .bool _ => .ok (leaf "boolean")
  | .int _ => .ok (leaf "number")
  | .float _ => .ok (leaf "number")
  | .str _ => .ok (leaf "string")
  | .list items => inferArray items
  | .tuple items => inferArray items
  | .dict entries => object <$> inferFields entries
  | .keyed keys values => (fun fields => object (Entries.ofPairs fields)) <$> inferKeyed keys values
  | .foreign value => .ok (leaf (Text.lower value.typeName))
  | .unreadable message => .error ⟨message⟩

def inferArray : List Value → Except Unreadable Schema
  | [] => .ok emptyArray
  | first :: _ => array <$> infer first

def inferFields : List (String × Value) → Except Unreadable (List (String × Schema))
  | [] => .ok []
  | (key, value) :: rest => do
    let field ← infer value
    let fields ← inferFields rest
    return (key, field) :: fields

/-- Keys with the same text are told apart no longer; the last one counts. -/
def inferKeyed (keys : List Key) : List Value → Except Unreadable (List (String × Schema))
  | [] => .ok []
  | value :: rest =>
    match keys with
    | [] => .ok []
    | key :: keys => do
      let name ← keyText key
      let field ← infer value
      let fields ← inferKeyed keys rest
      return (name, field) :: fields

end

mutual

/-- A summary as a value: kinds are strings, arrays have at most one item. -/
def toValue : Schema → Value
  | leaf kind => .str kind
  | emptyArray => .list []
  | array item => .list [item.toValue]
  | object fields => .dict (fieldValues fields)

def fieldValues : List (String × Schema) → List (String × Value)
  | [] => []
  | (key, field) :: rest => (key, field.toValue) :: fieldValues rest

end

/-- The compact single-line form. -/
def text (schema : Schema) : String := Json.write Json.compact schema.toValue

/-- The kind of a leaf; everything else counts as an object. -/
def kindName : Schema → String
  | leaf kind => kind
  | _ => "object"

end Schema

/-- The compact summary of a value. -/
def describe (v : Value) : Except Unreadable String := Schema.text <$> Schema.infer v

end Workflow
