import Workflow.Proofs.Engine.Installed
import Workflow.Proofs.Program.Nested

/-!
Runs within runs. A step whose program is written out in its arguments, without placeholders, runs
what stands there and nothing else. Inner programs stand within the arguments that hold them, so
they nest only so deep, and no allowance beyond that makes a difference. `flattening` lists the
tools of all steps in the order of execution.
-/
namespace Workflow

variable {σ : Type}

/-- Executors that agree on the steps of a run carry it out alike. -/
theorem Run.steps_congr {execute execute' : Executor σ} {caller : Caller σ} {left : List Step}
    (same : ∀ step ∈ left, ∀ outputs producers s,
      execute outputs producers caller step s = execute' outputs producers caller step s)
    (p : Progress) (s : Session σ) :
    steps execute caller left p s = steps execute' caller left p s := by
  induction left generalizing p s with
  | nil => rfl
  | cons step rest ih =>
    have later := ih fun other member => same other (List.mem_cons_of_mem step member)
    rw [steps, steps, same step (by simp)]
    simp only [later]

namespace Engine
open Execution

/-- A name leads to the tool that runs a program. -/
def runsProgram (engine : Engine σ) (tool : String) : Bool :=
  match engine.route? tool with
  | some .runProgram => true
  | _ => false

/-- If the step runs a program, this is written out without placeholders. -/
def Literal (engine : Engine σ) (step : Step) : Prop :=
  engine.runsProgram step.tool = true → Template.Literal (.dict step.args)

/-- The runs that a literal step starts nest at most so deep. -/
def NestsWithin (engine : Engine σ) : Nat → Step → Prop
  | 0, step => engine.runsProgram step.tool = false
  | depth + 1, step =>
    engine.runsProgram step.tool = true → ∀ inner ∈ step.inner, NestsWithin engine depth inner

variable {engine : Engine σ} {step : Step}

theorem route?_of_runsProgram {tool : String} (runs : engine.runsProgram tool = true) :
    engine.route? tool = some .runProgram := by
  unfold runsProgram at runs
  split at runs
  next route => exact route
  · cases runs

theorem runsProgram_of_route? {tool : String} (route : engine.route? tool = some .runProgram) :
    engine.runsProgram tool = true := by
  simp only [runsProgram, route]

/-- Inner steps are literal where the step that holds them is. -/
theorem Literal.of_mem_inner {other : Step} (literal : engine.Literal step)
    (runs : engine.runsProgram step.tool = true) (member : other ∈ step.inner) :
    engine.Literal other :=
  fun _ => Step.literal_of_mem_inner (literal runs) member

/-- Arguments get lower from each run to the next, so their height bounds the nesting. -/
theorem nestsWithin_of_height_le (engine : Engine σ) {depth : Nat}
    (low : (Value.dict step.args).height ≤ depth) : engine.NestsWithin depth step := by
  induction depth generalizing step with
  | zero => cases low
  | succ depth ih =>
    intro _ inner member
    have lower := Step.height_of_mem_inner member
    exact ih (by omega)

/-! ### How deep runs may nest -/

/-- Runs that are allowed to nest make no difference to other tools. -/
theorem invokeWith_of_not_runsProgram {tool : String} (other : engine.runsProgram tool = false)
    (nested nested' : Nested σ) (args : Value) (caller : Caller σ) (s : Session σ) :
    engine.invokeWith nested tool args caller s = engine.invokeWith nested' tool args caller s := by
  unfold invokeWith
  split
  · rfl
  · rfl
  next route =>
    rw [runsProgram_of_route? route] at other
    cases other
  · rfl
  · rfl

theorem invokeAt_of_not_runsProgram {tool : String} (other : engine.runsProgram tool = false)
    (depth depth' : Nat) (args : Value) (caller : Caller σ) (s : Session σ) :
    engine.invokeAt depth tool args caller s = engine.invokeAt depth' tool args caller s := by
  cases depth <;> cases depth' <;> exact invokeWith_of_not_runsProgram other ..

theorem executeStep_of_not_runsProgram (other : engine.runsProgram step.tool = false)
    (depth depth' : Nat) (outputs : Outputs) (producers : List (String × String))
    (caller : Caller σ) (s : Session σ) :
    executeStep engine.learning (engine.invokeAt depth) outputs producers caller step s =
      executeStep engine.learning (engine.invokeAt depth') outputs producers caller step s := by
  have invoked (args : Value) (t : Session σ) :=
    invokeAt_of_not_runsProgram other depth depth' args caller t
  simp only [executeStep, invoked]

/-- The arguments of a literal step are resolved to the program that is written out. -/
theorem Literal.read_eq (literal : engine.Literal step)
    (runs : engine.runsProgram step.tool = true) {outputs : Outputs} {args : List (String × Value)}
    (resolved : Template.resolveEntries outputs step.args = .ok args) :
    Value.dict args = (Value.dict step.args).listed :=
  Template.resolve_of_literal outputs (.dict step.args) (.dict args) (literal runs) (by
    rw [Template.resolve, resolved]
    rfl)

/-- Programs whose steps are executed alike are run alike by the steps that hold them. -/
theorem nestedBy_congr {invoke invoke' : Invoker σ} {caller : Caller σ} {reading : Reading}
    (same : ∀ program, reading = .ok program → ∀ step ∈ program.steps, ∀ outputs producers s,
      executeStep engine.learning invoke outputs producers caller step s =
        executeStep engine.learning invoke' outputs producers caller step s) (s : Session σ) :
    engine.nestedBy invoke reading caller s = engine.nestedBy invoke' reading caller s := by
  match reading with
  | .error (.raised cause) => rfl
  | .error .noSteps => rfl
  | .error (.invalid problems) => rfl
  | .ok program =>
    simp only [nestedBy, Run.complete, Run.course, Run.steps_congr (same program rfl)]

/-- A literal step is executed alike wherever runs may nest as deep as it needs. -/
theorem executeStep_of_nestsWithin {depth : Nat} (literal : engine.Literal step)
    (nests : engine.NestsWithin depth step) {limit limit' : Nat} (enough : depth ≤ limit)
    (enough' : depth ≤ limit') (outputs : Outputs) (producers : List (String × String))
    (caller : Caller σ) (s : Session σ) :
    executeStep engine.learning (engine.invokeAt limit) outputs producers caller step s =
      executeStep engine.learning (engine.invokeAt limit') outputs producers caller step s := by
  induction depth generalizing step limit limit' outputs producers s with
  | zero => exact executeStep_of_not_runsProgram nests ..
  | succ depth ih =>
    cases runs : engine.runsProgram step.tool with
    | false => exact executeStep_of_not_runsProgram runs ..
    | true =>
      obtain ⟨rest, rfl⟩ : ∃ rest, limit = rest + 1 := ⟨limit - 1, by omega⟩
      obtain ⟨rest', rfl⟩ : ∃ rest', limit' = rest' + 1 := ⟨limit' - 1, by omega⟩
      cases resolved : Template.resolveEntries outputs step.args with
      | error e => simp only [executeStep, resolved]
      | ok args =>
        have route := route?_of_runsProgram runs
        rw [executeStep_of_resolved resolved, executeStep_of_resolved resolved, invokeAt, invokeAt,
          invokeWith_of_runProgram _ _ _ _ route, invokeWith_of_runProgram _ _ _ _ route]
        rw [nestedBy_congr fun program read inner member outputs producers t => ?_]
        have written := literal.read_eq runs resolved
        rw [written] at read
        have held : inner ∈ step.inner := by
          rw [Step.inner_of_read read]
          exact member
        exact ih (literal.of_mem_inner runs held) (nests runs inner held) (by omega) (by omega) ..

/-! ### All steps of a program -/

/-- A step and the steps of the program that it runs, at every depth, each before its own. -/
def everyStep (engine : Engine σ) (step : Step) : List Step :=
  step :: if engine.runsProgram step.tool then
    step.inner.attach.flatMap fun ⟨inner, _⟩ => engine.everyStep inner
  else []
termination_by (Value.dict step.args).height
decreasing_by exact Step.height_of_mem_inner ‹_›

/-- All steps of a program, at every depth, in the order of execution. -/
def allSteps (engine : Engine σ) (steps : List Step) : List Step := steps.flatMap engine.everyStep

/-- The tools of all steps, apart from the engine's own. -/
def flattening (engine : Engine σ) (steps : List Step) : List String :=
  ((engine.allSteps steps).filter fun step => !engine.isBuiltin step.tool).map Step.tool

theorem everyStep_eq (engine : Engine σ) (step : Step) :
    engine.everyStep step =
      step :: if engine.runsProgram step.tool then engine.allSteps step.inner else [] := by
  rw [everyStep, allSteps]
  simp only [List.flatMap_subtype, List.unattach_attach]

theorem flattening_cons_append (engine : Engine σ) (step : Step) (rest : List Step) :
    engine.flattening (step :: rest) = engine.flattening [step] ++ engine.flattening rest := by
  simp [flattening, allSteps]

/-- A step that describes tools contributes nothing, one that runs a program what this one does, and
any other its tool. -/
theorem flattening_singleton (engine : Engine σ) (step : Step) :
    engine.flattening [step] =
      match engine.route? step.tool with
      | some .describeTools => []
      | some .runProgram => engine.flattening step.inner
      | _ => [step.tool] := by
  simp only [flattening, allSteps, List.flatMap_singleton, everyStep_eq engine step]
  cases route : engine.route? step.tool with
  | none => simp [runsProgram, isBuiltin, route]
  | some target =>
    cases target <;> simp [runsProgram, isBuiltin, route, Route.isBuiltin]

theorem flattening_length_le (engine : Engine σ) (steps : List Step) :
    (engine.flattening steps).length ≤ (engine.allSteps steps).length := by
  rw [flattening, List.length_map]
  exact List.length_filter_le ..

theorem exists_step_of_mem_flattening {steps : List Step} {tool : String}
    (member : tool ∈ engine.flattening steps) :
    ∃ step ∈ engine.allSteps steps, step.tool = tool := by
  obtain ⟨step, member, same⟩ := List.mem_map.1 member
  exact ⟨step, List.mem_of_mem_filter member, same⟩

end Engine
end Workflow
