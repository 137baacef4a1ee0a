import Workflow.Execution

/-!
Runs of programs. Steps are executed in order; before each one the caller's signal is read, and the
first failure ends the run. A run that an exception leaves has no outcome. A run is either completed
at once or pulled event by event, and both do the same work in the same order:
`Phase.drain_submitted`.
-/
namespace Workflow

/-- The stages of a step that a run reports. -/
inductive StepPhase where
  | started
  | completed
  | failed
  deriving DecidableEq, Repr

def StepPhase.name : StepPhase → String
  | started => "started"
  | completed => "completed"
  | failed => "failed"

structure StatusEvent where
  step : String
  phase : StepPhase
  status : String
  deriving DecidableEq, Repr

/-- How a run ends. A program that is rejected fails without a step. -/
inductive Ending where
  | success (value : Value)
  | failed (error : String) (step : Option String)
  | canceled

/-- The end of a run and what its completed steps stored. -/
structure Outcome where
  ending : Ending
  outputs : Outputs

def canceledText : String := "Workflow cancelled"

namespace Outcome

def error? (o : Outcome) : Option String :=
  match o.ending with
  | .success _ => none
  | .failed error _ => some error
  | .canceled => some canceledText

def isCanceled (o : Outcome) : Bool :=
  match o.ending with
  | .canceled => true
  | _ => false

/-- What the host hands back: the value of the last step, or an object with an `error`. -/
def payload (o : Outcome) : Value :=
  match o.ending with
  | .success value => value
  | .failed error step =>
    .dict ([("error", .str error)] ++ (step.map fun id => ("failedStep", Value.str id)).toList)
  | .canceled => .dict [("error", .str canceledText), ("canceled", .bool true)]

end Outcome

/-- What a run has stored so far: outputs and their tools by step id, and the latest value. -/
structure Progress where
  outputs : Outputs
  producers : List (String × String)
  value : Value

namespace Progress

def initial : Progress := ⟨[], [], .null⟩

def store (step : Step) (value : Value) (p : Progress) : Progress :=
  ⟨Entries.put step.id value p.outputs, Entries.put step.id step.tool p.producers, value⟩

/-- A result under a new name comes after those there are. -/
theorem outputs_store {p : Progress} {step : Step} {later : List String} (value : Value)
    (fresh : (Entries.keys p.outputs ++ step.id :: later).Nodup) :
    (p.store step value).outputs = p.outputs ++ [(step.id, value)] :=
  Entries.put_of_not_mem step.id value p.outputs fun held =>
    (List.nodup_append.1 fresh).2.2 step.id held step.id (by simp) rfl

/-- A result under a new name leaves the names of the other steps new. -/
theorem fresh_store {p : Progress} {step : Step} {later : List String} (value : Value)
    (fresh : (Entries.keys p.outputs ++ step.id :: later).Nodup) :
    (Entries.keys (p.store step value).outputs ++ later).Nodup := by
  rw [outputs_store value fresh]
  simpa [Entries.keys, List.append_assoc] using fresh

end Progress

namespace StatusEvent

def started (step : Step) : StatusEvent := ⟨step.id, .started, step.startLine⟩
def completed (step : Step) : StatusEvent := ⟨step.id, .completed, s!"Completed step {step.id}"⟩
def failed (step : Step) (message : String) : StatusEvent :=
  ⟨step.id, .failed, s!"Failed step {step.id}: {message}"⟩

end StatusEvent

/-- How steps are executed in a run. -/
abbrev Executor (σ : Type) :=
  Outputs → List (String × String) → Caller σ → Step → Session σ → Except Halt Value × Session σ

/-- What reading a submitted program gave. -/
abbrev Reading := Except Program.ReadError Program

/-! ### Completing a run -/

/-- The events of a run in order, and its outcome. -/
structure Report where
  statuses : List StatusEvent
  outcome : Outcome

/-- The events of a run in order, and how it closes: with an outcome, or with an exception. -/
structure Course where
  statuses : List StatusEvent
  closing : Except Thrown Outcome

/-- What is handed back of a run. -/
def Course.report (c : Course) : Except Thrown Report := c.closing.map (⟨c.statuses, ·⟩)

/-- The end of a run in a step that does not complete. -/
def Halt.course (step : Step) (outputs : Outputs) : Halt → Course
  | failed message =>
    ⟨[.started step, .failed step message], .ok ⟨.failed message (some step.id), outputs⟩⟩
  | raised cause => ⟨[.started step], .error cause⟩

namespace Run

variable {σ : Type}

/-- Executes the remaining steps. -/
def steps (execute : Executor σ) (caller : Caller σ) :
    List Step → Progress → Session σ → Course × Session σ
  | [], p, s => (⟨[], .ok ⟨.success p.value, p.outputs⟩⟩, s)
  | step :: rest, p, s =>
    if caller.canceled s.world then
      (⟨[], .ok ⟨.canceled, p.outputs⟩⟩, s.note (.canceledBefore step.id))
    else
      match execute p.outputs p.producers caller step s with
      | (.error halt, s) => (halt.course step p.outputs, s)
      | (.ok value, s) =>
        let (later, s) := steps execute caller rest (p.store step value) s
        (⟨.started step :: .completed step :: later.statuses, later.closing⟩, s)

/-- Runs a submitted program. -/
def course (execute : Executor σ) (reading : Reading) (caller : Caller σ) (s : Session σ) :
    Course × Session σ :=
  match reading with
  | .error (.raised cause) => (⟨[], .error (.told cause)⟩, s)
  | .error e => (⟨[], .ok ⟨.failed e.message none, []⟩⟩, s.note (.rejected e.message))
  | .ok program =>
    steps execute caller program.steps .initial (s.note (.running program.steps.length))

/-- Runs a submitted program to its end, unless an exception leaves it. -/
def complete (execute : Executor σ) (reading : Reading) (caller : Caller σ) (s : Session σ) :
    Except Thrown Report × Session σ :=
  let (course, s) := course execute reading caller s
  (course.report, s)

/-- A completed run has an outcome where no exception closes its course. -/
theorem complete_ok_iff {execute : Executor σ} {reading : Reading} {caller : Caller σ}
    {s after : Session σ} {statuses : List StatusEvent} {outcome : Outcome} :
    complete execute reading caller s = (.ok ⟨statuses, outcome⟩, after) ↔
      course execute reading caller s = (⟨statuses, .ok outcome⟩, after) := by
  unfold complete
  rcases course execute reading caller s with ⟨⟨told, closing⟩, t⟩
  cases closing <;> simp [Course.report, Except.map]

/-- A completed run is closed by the outcome of its report. -/
theorem closing_of_complete {execute : Executor σ} {reading : Reading} {caller : Caller σ}
    {s : Session σ} {report : Report} (ran : (complete execute reading caller s).1 = .ok report) :
    (course execute reading caller s).1.closing = .ok report.outcome := by
  rw [complete_ok_iff.1 (Prod.ext ran rfl)]

theorem complete_error_iff {execute : Executor σ} {reading : Reading} {caller : Caller σ}
    {s after : Session σ} {cause : Thrown} :
    complete execute reading caller s = (.error cause, after) ↔
      (course execute reading caller s).1.closing = .error cause ∧
        (course execute reading caller s).2 = after := by
  unfold complete
  rcases course execute reading caller s with ⟨⟨told, closing⟩, t⟩
  cases closing <;> simp [Course.report, Except.map]

/-! The first of the remaining steps is canceled, halts or completes. -/

variable {execute : Executor σ} {caller : Caller σ} {step : Step} {p : Progress}
  {s after : Session σ}

theorem steps_of_canceled (rest : List Step) (stop : caller.canceled s.world = true) :
    steps execute caller (step :: rest) p s =
      (⟨[], .ok ⟨.canceled, p.outputs⟩⟩, s.note (.canceledBefore step.id)) := by
  simp only [steps, stop, if_true]

theorem steps_of_halted (rest : List Step) {halt : Halt} (unset : caller.canceled s.world = false)
    (halted : execute p.outputs p.producers caller step s = (.error halt, after)) :
    steps execute caller (step :: rest) p s = (halt.course step p.outputs, after) := by
  simp only [steps, unset, Bool.false_eq_true, if_false, halted]

theorem steps_of_completed (rest : List Step) {value : Value}
    (unset : caller.canceled s.world = false)
    (completed : execute p.outputs p.producers caller step s = (.ok value, after)) :
    steps execute caller (step :: rest) p s =
      (⟨.started step :: .completed step ::
          (steps execute caller rest (p.store step value) after).1.statuses,
        (steps execute caller rest (p.store step value) after).1.closing⟩,
        (steps execute caller rest (p.store step value) after).2) := by
  simp only [steps, unset, Bool.false_eq_true, if_false, completed]

end Run

/-! ### Pulling a run event by event -/

/-- What a pull gives: a status, the outcome, or an exception, with which there is no outcome. -/
inductive Notice where
  | status (event : StatusEvent)
  | ended (outcome : Outcome)
  | raised (cause : Thrown)

/-- The notice of how a run closes. -/
def Notice.ofClosing : Except Thrown Outcome → Notice
  | .ok outcome => ended outcome
  | .error cause => raised cause

/-- What is noticed of a step that does not complete. -/
def Halt.notice (step : Step) : Halt → Notice
  | failed message => .status (.failed step message)
  | raised cause => .raised cause

/-- Where a pulled run stands. A started step is executed by the next pull. -/
inductive Phase where
  | submitted (reading : Reading)
  | before (steps : List Step) (progress : Progress)
  | started (step : Step) (rest : List Step) (progress : Progress)
  | failed (step : Step) (message : String) (progress : Progress)
  | closed

/-- Where a run stands after a step that does not complete. -/
def Halt.phase (step : Step) (p : Progress) : Halt → Phase
  | failed message => .failed step message p
  | raised _ => .closed

namespace Phase

variable {σ : Type}

/-- Reads the signal and starts the next step, or ends the run. -/
def startNext (caller : Caller σ) (steps : List Step) (p : Progress) (s : Session σ) :
    Option Notice × Phase × Session σ :=
  match steps with
  | [] => (some (.ended ⟨.success p.value, p.outputs⟩), .closed, s)
  | step :: rest =>
    if caller.canceled s.world then
      (some (.ended ⟨.canceled, p.outputs⟩), .closed, s.note (.canceledBefore step.id))
    else (some (.status (.started step)), .started step rest p, s)

/-- The next event of a run, and no event once it is closed. -/
def pull (execute : Executor σ) (caller : Caller σ) (phase : Phase) (s : Session σ) :
    Option Notice × Phase × Session σ :=
  match phase with
  | .submitted (.error (.raised cause)) => (some (.raised (.told cause)), .closed, s)
  | .submitted (.error e) =>
    (some (.ended ⟨.failed e.message none, []⟩), .closed, s.note (.rejected e.message))
  | .submitted (.ok program) =>
    startNext caller program.steps .initial (s.note (.running program.steps.length))
  | .before steps p => startNext caller steps p s
  | .started step rest p =>
    match execute p.outputs p.producers caller step s with
    | (.error halt, s) => (some (halt.notice step), halt.phase step p, s)
    | (.ok value, s) =>
      (some (.status (.completed step)), .before rest (p.store step value), s)
  | .failed step message p =>
    (some (.ended ⟨.failed message (some step.id), p.outputs⟩), .closed, s)
  | .closed => (none, .closed, s)

/-- How many events a run may still give. -/
def bound : Phase → Nat
  | submitted (.error _) => 1
  | submitted (.ok program) => 2 * program.steps.length + 1
  | before steps _ => 2 * steps.length + 1
  | started _ rest _ => 2 * rest.length + 2
  | failed .. => 1
  | closed => 0

/-- At most `n` events, and where the run stands after them. -/
def take (execute : Executor σ) (caller : Caller σ) :
    Nat → Phase → Session σ → List Notice × Phase × Session σ
  | 0, phase, s => ([], phase, s)
  | n + 1, phase, s =>
    match pull execute caller phase s with
    | (none, phase, s) => ([], phase, s)
    | (some notice, phase, s) =>
      let (later, phase, s) := take execute caller n phase s
      (notice :: later, phase, s)

/-- All remaining events. -/
def drain (execute : Executor σ) (caller : Caller σ) (phase : Phase) (s : Session σ) :
    List Notice × Session σ :=
  let (notices, _, s) := take execute caller phase.bound phase s
  (notices, s)

end Phase

/-- The notices of a run. -/
def Course.notices (c : Course) : List Notice :=
  c.statuses.map Notice.status ++ [.ofClosing c.closing]

namespace Phase

variable {σ : Type}

theorem take_closed (execute : Executor σ) (caller : Caller σ) (n : Nat) (s : Session σ) :
    take execute caller n .closed s = ([], .closed, s) := by
  cases n <;> rfl

/-- A pull that gives an event comes first. -/
theorem take_of_pull {execute : Executor σ} {caller : Caller σ} {phase next : Phase}
    {s after : Session σ} {notice : Notice} (n : Nat)
    (pulled : pull execute caller phase s = (some notice, next, after)) :
    take execute caller (n + 1) phase s =
      (notice :: (take execute caller n next after).1, (take execute caller n next after).2) := by
  simp [take, pulled]

/-- Pulling the remaining steps to the end does what executing them does. -/
theorem take_before (execute : Executor σ) (caller : Caller σ) (steps : List Step) (p : Progress)
    (s : Session σ) :
    take execute caller (2 * steps.length + 1) (.before steps p) s =
      ((Run.steps execute caller steps p s).1.notices, .closed,
        (Run.steps execute caller steps p s).2) := by
  induction steps generalizing p s with
  | nil => rfl
  | cons step rest ih =>
    rw [show 2 * (step :: rest).length + 1 = (2 * rest.length + 1) + 1 + 1 by
      simp only [List.length_cons]; omega]
    by_cases stop : caller.canceled s.world
    · rw [take_of_pull _ (by simp only [pull, startNext, stop, if_true]; rfl), take_closed,
        Run.steps_of_canceled rest stop]
      rfl
    · have unset : caller.canceled s.world = false := by simpa using stop
      have begun : pull execute caller (.before (step :: rest) p) s =
          (some (.status (.started step)), .started step rest p, s) := by
        simp [pull, startNext, stop]
      rw [take_of_pull _ begun]
      rcases result : execute p.outputs p.producers caller step s with ⟨answer, after⟩
      cases answer with
      | error halt =>
        have halted : pull execute caller (.started step rest p) s =
            (some (halt.notice step), halt.phase step p, after) := by
          simp [pull, result]
        rw [take_of_pull _ halted, Run.steps_of_halted rest unset result]
        cases halt with
        | failed message =>
          rw [Halt.phase, take_of_pull _ rfl, take_closed]
          rfl
        | raised cause =>
          rw [Halt.phase, take_closed]
          rfl
      | ok value =>
        have stored : pull execute caller (.started step rest p) s =
            (some (.status (.completed step)), .before rest (p.store step value), after) := by
          simp [pull, result]
        rw [take_of_pull _ stored, ih, Run.steps_of_completed rest unset result]
        rfl

/-- Draining a submitted program gives the events and the effects of its run. -/
theorem drain_submitted (execute : Executor σ) (caller : Caller σ) (reading : Reading)
    (s : Session σ) :
    drain execute caller (.submitted reading) s =
      ((Run.course execute reading caller s).1.notices,
        (Run.course execute reading caller s).2) := by
  match reading with
  | .error (.raised cause) => rfl
  | .error .noSteps => rfl
  | .error (.invalid problems) => rfl
  | .ok program =>
    have whole := take_before execute caller program.steps .initial
      (s.note (.running program.steps.length))
    have same (n : Nat) : take execute caller (n + 1) (.submitted (.ok program)) s =
        take execute caller (n + 1) (.before program.steps .initial)
          (s.note (.running program.steps.length)) := rfl
    simp only [drain, bound, same, whole, Run.course]

end Phase
end Workflow
