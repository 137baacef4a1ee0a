import Workflow.Fields
import Workflow.Schema
import Workflow.Value.Misuse

/-!
Tools and what is known about them: declared names, descriptions and parameters, and the descriptor
that answers a request for information. A tool acts on the state of its world and either answers or
raises.
-/
namespace Workflow

/-- What a tool declares about itself. -/
structure ToolSpec where
  name : String
  description : String
  parameters : List (String × Value)

/-- The parameters of a tool that declares none. -/
def noParameters : List (String × Value) :=
  [("type", .str "object"), ("properties", .dict []), ("required", .list [])]

open Fields in
def ToolSpec.ofFields (fields : List (String × Value)) : Checked ToolSpec :=
  let name := required [] fields "name" string
  let description := optional [] fields "description" "" string
  let parameters := optional [] fields "parameters" noParameters (entries textKey)
  match name, description, parameters with
  | .ok name, .ok description, .ok parameters => .ok ⟨name, description, parameters⟩
  | _, _, _ => .error (name.problems ++ description.problems ++ parameters.problems)

/-- One entry of an answer about tools. A null result schema counts as absent. -/
structure Descriptor where
  name : String
  description : Option String
  parameters : Option (List (String × Value))
  resultSchema : Value
  error : Option String

namespace Descriptor

open Fields in
def ofFields (fields : List (String × Value)) : Checked Descriptor :=
  let name := required [] fields "name" string
  let description := optional [] fields "description" none (nullable string)
  let parameters := optional [] fields "parameters" none (nullable (entries textKey))
  let resultSchema := optional [] fields "result_schema" .null anything
  let error := optional [] fields "error" none (nullable string)
  match name, description, parameters, resultSchema, error with
  | .ok name, .ok description, .ok parameters, .ok resultSchema, .ok error =>
    .ok ⟨name, description, parameters, resultSchema, error⟩
  | _, _, _, _, _ =>
    .error (name.problems ++ description.problems ++ parameters.problems ++
      resultSchema.problems ++ error.problems)

mutual

/-- A value as it is handed out: unreadable objects inside show their empty form. -/
def shown : Value → Value
  | .list items => .list (shownItems items)
  | .tuple items => .tuple (shownItems items)
  | .dict entries => .dict (shownEntries entries)
  | .keyed keys values => .keyed keys (shownItems values)
  | .unreadable _ => .dict []
  | v => v

def shownItems : List Value → List Value
  | [] => []
  | item :: rest => shown item :: shownItems rest

def shownEntries : List (String × Value) → List (String × Value)
  | [] => []
  | (key, value) :: rest => (key, shown value) :: shownEntries rest

end

def resultEntry (schema : Value) : List (String × Value) :=
  match schema with
  | .null => []
  | schema => [("result_schema", shown schema)]

/-- The entries that are present. -/
def payload (d : Descriptor) : Value :=
  .dict ([("name", .str d.name)] ++
    (d.description.map fun text => ("description", Value.str text)).toList ++
    (d.parameters.map fun entries => ("parameters", Value.dict (shownEntries entries))).toList ++
    resultEntry d.resultSchema ++
    (d.error.map fun text => ("error", Value.str text)).toList)

end Descriptor

/-- The text that says a tool is unknown. -/
def notFoundText (name : String) : String := s!"Tool \"{name}\" not found"

/-- The declared tools and the result schemas learned so far, both by tool name. -/
structure Catalogue where
  specs : List (String × ToolSpec)
  learned : List (String × Schema)

namespace Catalogue

/-- The first declaration of a name counts. -/
def ofSpecs (specs : List ToolSpec) : List (String × ToolSpec) :=
  specs.foldl (fun known spec =>
    if Entries.has spec.name known then known else known ++ [(spec.name, spec)]) []

def names (c : Catalogue) : List String := Entries.keys c.specs

def schemaFor? (c : Catalogue) (tool : String) : Option Schema := c.learned.lookup tool

/-- The learned schema in one line. -/
def schemaText (c : Catalogue) (tool : String) : String :=
  match c.schemaFor? tool with
  | some schema => schema.text
  | none => "Schema not available"

/-- Learns the schema of a tool's latest result. -/
def record (tool : String) (value : Value) (learned : List (String × Schema)) :
    Except Unreadable (List (String × Schema)) := do
  let schema ← Schema.infer value
  return Entries.put tool schema learned

theorem record_of_infer {value : Value} {schema : Schema} (tool : String)
    (learned : List (String × Schema)) (inferred : Schema.infer value = .ok schema) :
    record tool value learned = .ok (Entries.put tool schema learned) := by
  rw [record, inferred]
  rfl

def describe (c : Catalogue) (name : String) : Descriptor :=
  match c.specs.lookup name with
  | none => ⟨name, none, none, .null, some (notFoundText name)⟩
  | some spec =>
    ⟨spec.name, some spec.description, some spec.parameters,
      (c.schemaFor? name).elim .null Schema.toValue, none⟩

/-- Why names ask for no descriptors. -/
inductive AskError where
  | misuse (cause : Misuse)
  | invalid (problems : List Fields.Problem)
  deriving DecidableEq, Repr

def AskError.message : AskError → String
  | misuse cause => cause.message
  | invalid problems => Fields.report problems

/-- The descriptor of the tool that a value names. -/
def describeNamed (c : Catalogue) (name : Value) : Except AskError Descriptor :=
  match name with
  | .str s => .ok (c.describe s)
  | v =>
    match v.unhashable? with
    | some kind => .error (.misuse (.key kind))
    | none => .error (.invalid [⟨["name"], .notString⟩])

def describeEach (c : Catalogue) : List Value → Except AskError (List Descriptor)
  | [] => .ok []
  | name :: rest => do
    let first ← c.describeNamed name
    let others ← c.describeEach rest
    return first :: others

/-- The descriptors of the tools that a value's items name, in their order. -/
def describeAll (c : Catalogue) (names : Value) : Except AskError (List Descriptor) := do
  let items ← names.askItems.mapError .misuse
  c.describeEach items

/-- One descriptor for each name asked for, in the order of the list, if all of them have texts.
What is no list asks for none. -/
def answer (c : Catalogue) (names : Value) : Except Raised Value := do
  let asked ← match names with
    | .list items => items.mapM Value.text
    | _ => .ok []
  return .dict [("tools_info", .list (asked.map fun name => (c.describe name).payload))]

/-- Names that have texts are answered by a descriptor each. -/
theorem answer_of_texts (c : Catalogue) {names : List Value} {texts : List String}
    (told : names.mapM Value.text = .ok texts) :
    c.answer (.list names) =
      .ok (.dict [("tools_info", .list (texts.map fun name => (c.describe name).payload))]) := by
  simp only [answer, told, bind, Except.bind]
  rfl

/-- Texts are their own texts. -/
theorem mapM_text_str (texts : List String) :
    (texts.map Value.str).mapM Value.text = .ok texts := by
  induction texts with
  | nil => rfl
  | cons text rest ih =>
    rw [List.map_cons, List.mapM_cons, ih]
    rfl

end Catalogue

/-- The exception that a misuse raises. -/
def Misuse.raised (m : Misuse) : Raised := ⟨m.kind, m.message⟩

/-- What a tool does with its arguments and the caller's context in a world. -/
abbrev Action (σ : Type) := Value → Value → σ → Except Thrown Value × σ

end Workflow
