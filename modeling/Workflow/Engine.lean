import Workflow.Registry
import Workflow.Run
import Workflow.Settings

/-!
The engine: installed tools and the two of its own, one that describes tools and one that runs a
program. A program may call the latter as a step; the inner run has its own outputs, and shares the
signal, the context and the session of the run that called it.
-/
namespace Workflow

/-- What the stack of the interpreter has room for: how deep runs nest, and how deep the texts and
errors nest that steps take in. -/
structure Limits where
  runs : Nat
  texts : Nat

/-- Installed tools, in an interpreter with some limits. -/
structure Engine (σ : Type) where
  settings : Settings
  registry : Registry σ
  limits : Limits

namespace Engine

variable {σ : Type}

def describeName (settings : Settings) : String := settings.namePrefix ++ "get_tools_info"
def runName (settings : Settings) : String := settings.namePrefix ++ "run_program"

/-- The engine's own tools, which come before all registrations. -/
def ownRoutes (settings : Settings) : Registry σ :=
  [(describeName settings, .describeTools), (runName settings, .runProgram)]

/-- Installs tools, and notes what happened. -/
def install (settings : Settings) (limits : Limits) (registrations : List (Registration σ)) :
    Except InstallError (Engine σ × List Entry) := do
  let (registry, noted) ← Registry.installOnto (ownRoutes settings) registrations
  return (⟨settings, registry, limits⟩,
    noted ++ [.installed (Catalogue.ofSpecs (Registry.specs registry)).length])

def route? (engine : Engine σ) (name : String) : Option (Route σ) := engine.registry.lookup name

def isBuiltin (engine : Engine σ) (name : String) : Bool :=
  (engine.route? name).any Route.isBuiltin

/-- The declared tools and what the session has learned about them. -/
def catalogue (engine : Engine σ) (learned : List (String × Schema)) : Catalogue :=
  ⟨Catalogue.ofSpecs (Registry.specs engine.registry), learned⟩

def toolNames (engine : Engine σ) : List String := (engine.catalogue []).names

/-- The answer about the tools that a list names. -/
def describeTools (engine : Engine σ) (names : Value) (s : Session σ) : Except Raised Value :=
  (engine.catalogue s.learned).answer names

/-! ### Invoking tools -/

/-- How a run that a step starts is carried out. -/
abbrev Nested (σ : Type) :=
  Reading → Caller σ → Session σ → Except Thrown Report × Session σ

/-- The answer of the describing tool. Its arguments have to be an object. -/
def describeCall (engine : Engine σ) (args : Value) (s : Session σ) : Except Raised Value :=
  if args.isObject then engine.describeTools ((args.field? "tools_names").getD .null) s
  else .error (Misuse.entries args.typeName).raised

/-- Calls an installed tool. -/
def callTool (tool label : String) (action : Action σ) (args : Value) (caller : Caller σ)
    (s : Session σ) : Except Thrown Value × Session σ :=
  (s.note (.called tool label args caller.context)).act (action args caller.context)

/-- Calls the tool of a name. An unknown name gives an error answer. -/
def invokeWith (engine : Engine σ) (nested : Nested σ) : Invoker σ := fun name args caller s =>
  match engine.route? name with
  | none => (.ok (.dict [("error", .str (notFoundText name))]), s.note (.unknownTool name))
  | some .describeTools => ((describeCall engine args s).mapError .told, s)
  | some .runProgram =>
    match nested (Program.read args) caller s with
    | (.error thrown, s) => (.error thrown, s)
    | (.ok report, s) => (.ok report.outcome.payload, s)
  | some (.single spec action) => callTool spec.name spec.name action args caller s
  | some (.member label spec action) =>
    callTool spec.name label action
      (.dict [("tool", .str spec.name), ("parameters", args)]) caller s

def learning (engine : Engine σ) : Execution.Learning :=
  ⟨true, engine.isBuiltin, engine.limits.texts⟩

@[simp]
theorem learning_room (engine : Engine σ) : engine.learning.room = engine.limits.texts := rfl

/-- Past the nesting limit no run is started. -/
def tooDeep : Nested σ := fun _ _ s =>
  (.error (.told ⟨"RecursionError", "maximum recursion depth exceeded"⟩), s)

/-- Runs whose steps call tools in a given way. -/
def nestedBy (engine : Engine σ) (invoke : Invoker σ) : Nested σ :=
  Run.complete (Execution.executeStep engine.learning invoke)

/-- Calls a tool where runs may still nest `depth` times. -/
def invokeAt (engine : Engine σ) : Nat → Invoker σ
  | 0 => engine.invokeWith tooDeep
  | depth + 1 => engine.invokeWith (engine.nestedBy (engine.invokeAt depth))

def invoke (engine : Engine σ) : Invoker σ := engine.invokeAt engine.limits.runs

/-- How the engine executes the steps of a run. -/
def execute (engine : Engine σ) : Executor σ :=
  Execution.executeStep engine.learning engine.invoke

/-! ### Running programs -/

/-- Runs a program to its end. -/
def run (engine : Engine σ) (program : Value) (caller : Caller σ) (s : Session σ) :
    Except Thrown Report × Session σ :=
  Run.complete engine.execute (Program.read program) caller s

/-- Runs a program and hands back the payload of its outcome. -/
def runProgram (engine : Engine σ) (program : Value) (caller : Caller σ) (s : Session σ) :
    Except Thrown Value × Session σ :=
  match engine.run program caller s with
  | (.error thrown, s) => (.error thrown, s)
  | (.ok report, s) => (.ok report.outcome.payload, s)

end Engine
end Workflow
