import Workflow.Envelope
import Workflow.Program
import Workflow.Session
import Workflow.Template
import Workflow.Tool

/-!
Executing one step: resolve its arguments, invoke its tool, read the answer, learn its schema. Every
way to fail ends in a text for the step; nothing is stored then. An exception may leave a step where
it takes an answer in, and where it asks for the text of an exception that was raised.
-/
namespace Workflow

/-- Who asked for the work: the context that tools are given, and how to see in the world whether
the work has been cancelled. -/
structure Caller (σ : Type) where
  context : Value
  canceled : σ → Bool

/-- Calls a tool by name. -/
abbrev Invoker (σ : Type) :=
  String → Value → Caller σ → Session σ → Except Thrown Value × Session σ

/-- Why a step stores nothing: it failed, or an exception left it. -/
inductive Halt where
  | failed (message : String)
  | raised (cause : Thrown)
  deriving DecidableEq

/-- The text of what kept arguments from being resolved; without one, its class name. -/
def ResolveError.description : ResolveError → String
  | .uncopyable message => if message = "" then "TypeError" else message
  | .unreadable cause => if cause.message = "" then "ValueError" else cause.message
  | .untold cause => cause.description
  | e => e.message

def Unreadable.description (e : Unreadable) : String :=
  if e.message = "" then "ValueError" else e.message

namespace Execution

variable {σ : Type}

/-- Points at the learned schema of the tool that produced the output an expression names.
`producers` holds the tool of each completed step. -/
def schemaHint (learned : List (String × Schema)) (producers : List (String × String))
    (e : ResolutionError) : String :=
  match e.cause, Path.parse e.expression with
  | .malformed _, _ => ""
  | _, .error _ => ""
  | _, .ok path =>
    match producers.lookup path.step with
    | none => ""
    | some tool =>
      match learned.lookup tool with
      | none => ""
      | some schema => s!" Expected schema for \"{tool}\": {schema.text}"

/-- How steps take answers in: whether they learn schemas and use them for hints, which tools are
never learned, and for how many levels of nesting there is room. -/
structure Learning where
  active : Bool
  exempt : String → Bool
  room : Nat

def unresolvedText (learning : Learning) (learned : List (String × Schema))
    (producers : List (String × String)) (step : Step) (e : ResolveError) : String :=
  s!"Failed to resolve variables for step \"{step.id}\": " ++ e.description ++
    match e with
    | .unresolved error => if learning.active then schemaHint learned producers error else ""
    | _ => ""

/-- Learns the schema of a result, where there is something to learn. -/
def learn (learning : Learning) (tool : String) (value : Value) (s : Session σ) :
    Except Unreadable (Session σ) :=
  if learning.active && !learning.exempt tool then do
    let learned ← Catalogue.record tool value s.learned
    return ({ s with learned } : Session σ).note (.recorded tool)
  else .ok s

def fail (step : Step) (message : String) (s : Session σ) : Except Halt Value × Session σ :=
  (.error (.failed message), s.note (.failed step.id step.tool message))

/-- Fails with what there is to tell about an exception. -/
def failWith (step : Step) (thrown : Thrown) (s : Session σ) : Except Halt Value × Session σ :=
  match thrown.description with
  | .ok message => fail step message s
  | .error cause => (.error (.raised cause), s)

/-- Takes the raw answer of a step's tool in. -/
def settle (learning : Learning) (step : Step) (raw : Value) (s : Session σ) :
    Except Halt Value × Session σ :=
  match Envelope.fault? learning.room raw with
  | some e => (.error (.raised (.told e)), s)
  | none =>
    match Envelope.read raw with
    | .error message => fail step message s
    | .ok value =>
      match learn learning step.tool value s with
      | .error unreadable =>
        fail step s!"Unreadable result from {step.tool}: {unreadable.description}" s
      | .ok s => (.ok value, s.note (.completed step.id step.tool value))

/-- Executes a step against the outputs of the steps before it. -/
def executeStep (learning : Learning) (invoke : Invoker σ) (outputs : Outputs)
    (producers : List (String × String)) (caller : Caller σ) (step : Step) (s : Session σ) :
    Except Halt Value × Session σ :=
  match Template.resolveEntries outputs step.args with
  | .error e => fail step (unresolvedText learning s.learned producers step e) s
  | .ok args =>
    match invoke step.tool (.dict args) caller (s.note (.invoking step.tool step.id)) with
    | (.error thrown, s) => failWith step thrown s
    | (.ok raw, s) => settle learning step raw s

end Execution
end Workflow
