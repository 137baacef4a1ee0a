import Workflow.Journal
import Workflow.Tool

/-!
The registry: one route for each tool name, fixed when tools are installed. The two tools of the
engine come first; of several registrations of a name the first one stays.
-/
namespace Workflow

/-- What a host registers: a tool of one name, whose declared fields are checked when it is
installed, a family of tools that is told which of its names was called, or something that is no
tool. -/
inductive Registration (σ : Type) where
  | single (fields : List (String × Value)) (action : Action σ)
  | family (label : String) (members : List ToolSpec) (action : Action σ)
  | unsupported (value : Value)

/-- How a tool is reached. -/
inductive Route (σ : Type) where
  | describeTools
  | runProgram
  | single (spec : ToolSpec) (action : Action σ)
  | member (label : String) (spec : ToolSpec) (action : Action σ)

namespace Route

variable {σ : Type}

/-- The declaration of a registered tool; the engine's own tools have none. -/
def spec? : Route σ → Option ToolSpec
  | single spec _ => some spec
  | member _ spec _ => some spec
  | _ => none

def kindName : Route σ → String
  | describeTools => "builtin"
  | runProgram => "builtin"
  | single .. => "tool"
  | member .. => "multi"

def isBuiltin : Route σ → Bool
  | describeTools => true
  | runProgram => true
  | _ => false

end Route

inductive InstallError where
  | invalidSpec (problems : List Fields.Problem)
  | unsupported (typeName : String)
  deriving DecidableEq, Repr

def InstallError.message : InstallError → String
  | invalidSpec problems => Fields.report problems
  | unsupported typeName => s!"Unsupported tool type: {typeName}"

/-- Routes by tool name, in order of registration. -/
abbrev Registry (σ : Type) := List (String × Route σ)

namespace Registry

variable {σ : Type}

/-- The names and routes that one registration asks for. -/
def routesOf : Registration σ → Except InstallError (List (String × Route σ))
  | .single fields action =>
    match ToolSpec.ofFields fields with
    | .ok spec => .ok [(spec.name, .single spec action)]
    | .error problems => .error (.invalidSpec problems)
  | .family label members action =>
    .ok (members.map fun spec => (spec.name, .member label spec action))
  | .unsupported value => .error (.unsupported value.typeName)

/-- Adds routes whose names are free; the others are noted as duplicates. -/
def extend (registry : Registry σ) : List (String × Route σ) → Registry σ × List Entry
  | [] => (registry, [])
  | (name, route) :: rest =>
    if Entries.has name registry then
      let (extended, duplicates) := extend registry rest
      (extended, .duplicateTool name :: duplicates)
    else extend (registry ++ [(name, route)]) rest

def installOnto (registry : Registry σ) :
    List (Registration σ) → Except InstallError (Registry σ × List Entry)
  | [] => .ok (registry, [])
  | registration :: rest => do
    let routes ← routesOf registration
    let (extended, noted) := extend registry routes
    let (full, later) ← installOnto extended rest
    return (full, noted ++ later)

def specs (registry : Registry σ) : List ToolSpec := registry.filterMap (·.2.spec?)

end Registry
end Workflow
