import Workflow.Fields
import Workflow.Json.Reader

/-!
Programs: ordered, non-empty lists of steps with distinct ids. A host may hand one over as a list
of steps, under a `steps` entry, either of these under a `program` entry, or as the JSON text of one
of those.
-/
namespace Workflow

/-- One tool call. The strings of its arguments may hold placeholders. -/
structure Step where
  id : String
  tool : String
  args : List (String × Value)
  description : Option String
  expert : Option String

namespace Step

open Fields in
/-- Reads a step from its fields. Numbers stand for their text where a string is due. -/
def ofFields (location : List String) (fields : List (String × Value)) : Checked Step :=
  let id := required location fields "id" (nonempty label)
  let tool := required location fields "tool" (nonempty label)
  let args := optional location fields "args" [] (entries labelKey)
  let description := optional location fields "description" none (nullable label)
  let expert := optional location fields "expert" none (nullable label)
  match id, tool, args, description, expert with
  | .ok id, .ok tool, .ok args, .ok description, .ok expert =>
    .ok ⟨id, tool, args, description, expert⟩
  | _, _, _, _, _ =>
    .error (id.problems ++ tool.problems ++ args.problems ++ description.problems ++
      expert.problems)

def ofValue (location : List String) (v : Value) : Fields.Checked Step :=
  match v.shownEntries? with
  | some fields => ofFields location fields
  | none => .error [⟨location, .notStep⟩]

/-- The line shown when the step starts. -/
def startLine (step : Step) : String :=
  match step.description with
  | some text => if text = "" then s!"Executing step {step.id}: {step.tool}" else text
  | none => s!"Executing step {step.id}: {step.tool}"

end Step

structure Program where
  steps : List Step

namespace Program

/-- Why a host's value is no program: it is refused, or reading it raises, which an integer of too
many digits does, in a JSON text or where its own text is due. -/
inductive ReadError where
  | noSteps
  | invalid (problems : List Fields.Problem)
  | raised (cause : Raised)
  deriving DecidableEq, Repr

def ReadError.message : ReadError → String
  | noSteps => "Invalid program: must have a steps array"
  | invalid problems => "Invalid program: " ++ Fields.report problems
  | raised cause => cause.text

/-- What the problems of steps come to. -/
def ReadError.ofProblems (problems : List Fields.Problem) : ReadError :=
  if problems.any (·.fault = .overlong) then raised .overlong else invalid problems

/-- Where the steps of a host's value stand. -/
def stepsEntry? (v : Value) : Option Value :=
  match v with
  | .list _ => some v
  | _ =>
    let inner : Option Value := match v.field? "program" with
      | some (.list steps) => some (.list steps)
      | some program => program.field? "steps"
      | none => none
    match inner with
    | none | some .null => v.field? "steps"
    | some steps => some steps

/-- Reads each step at its position, and collects the problems of all. -/
def stepsFrom (position : Nat) : List Value → Fields.Checked (List Step)
  | [] => .ok []
  | item :: rest =>
    match Step.ofValue ["steps", toString position] item, stepsFrom (position + 1) rest with
    | .ok step, .ok steps => .ok (step :: steps)
    | first, others => .error (first.problems ++ others.problems)

/-- The first id that an earlier step already has. -/
def duplicateId? (seen : List String) : List Step → Option String
  | [] => none
  | step :: rest => if step.id ∈ seen then some step.id else duplicateId? (step.id :: seen) rest

def ofSteps (items : List Value) : Fields.Checked Program := do
  let steps ← stepsFrom 0 items
  match duplicateId? [] steps with
  | some id => .error [⟨[], .duplicateStep id⟩]
  | none => return ⟨steps⟩

def ofValue (v : Value) : Except ReadError Program :=
  match stepsEntry? v with
  | some (.list (first :: rest)) => (ofSteps (first :: rest)).mapError .ofProblems
  | _ => .error .noSteps

/-- Reads a program in any of its forms. -/
def read (raw : Value) : Except ReadError Program :=
  match raw with
  | .str text =>
    match Json.parse text with
    | .ok v => ofValue v
    | .error (.numeral digits) => .error (.raised ⟨"ValueError", Text.tooManyDigits digits⟩)
    | .error (.malformed ..) => .error .noSteps
  | v => ofValue v

/-- The number of steps announced for the arguments of a program call. -/
def announcedSteps (args : Value) : Nat :=
  let counted : Option Value → Nat
    | some (.list steps) => steps.length
    | _ => 0
  match args with
  | .list steps => steps.length
  | _ =>
    match args.field? "program" with
    | some program => if program.isObject then counted (program.field? "steps")
      else counted (args.field? "steps")
    | none => counted (args.field? "steps")

end Program
end Workflow
