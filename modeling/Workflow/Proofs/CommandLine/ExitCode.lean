import Workflow.CommandLine.Command
import Workflow.Proofs.Envelope.Errors
import Workflow.Proofs.Run.Boundary
import Workflow.Proofs.Terminal.Shown

/-!
What the command line tells about a run. It sees the payload of the outcome alone, and takes one
with an `error` entry for a failure; a run fails for a truthy entry only. The exit code and the
panels therefore tell the end of a run, unless the value of a success has an `error` entry that is
falsy: `Masked`. A command also ends without an exit code where the value of a success cannot be
shown, `unshowable?`, and where an exception leaves the run.
-/
namespace Workflow

namespace Ending

/-- A success that looks like a failure: its value has an `error` entry, but a falsy one. -/
def Masked (ending : Ending) : Prop :=
  ∃ value error, ending = .success value ∧ value.field? "error" = some error ∧
    error.truthy = false

/-- What showing the end of a run raises. Only the value of a success can be impossible to show. -/
def unshowable? : Ending → Option Raised
  | success value =>
    match value.field? "error" with
    | some error => (Terminal.halt ((value.field? "failedStep").getD .null) error).raised?
    | none => Success.failure? (Terminal.render value)
  | _ => none

/-- The exit code that is due for each end of a run. -/
def code : Ending → Nat
  | success _ => 0
  | failed .. => 1
  | canceled => 130

/-- The title of the panel that is due for each end of a run. -/
def title : Ending → Terminal.Label
  | success _ => Terminal.label "RESULT" "green"
  | failed .. => Terminal.label "HALT" "red"
  | canceled => Terminal.label "CANCELLED" "yellow"

end Ending

namespace Run
open Execution

variable {σ : Type}

/-- Where the value of a success has an `error` entry, the success is masked. -/
theorem masked_of_field {learning : Learning} {invoke : Invoker σ} {caller : Caller σ}
    {steps : List Step} {s : Session σ} {value error : Value} {outputs : Outputs}
    (ended : (Run.steps (executeStep learning invoke) caller steps .initial s).1.closing =
      .ok ⟨.success value, outputs⟩) (held : value.field? "error" = some error) :
    (Ending.success value).Masked := by
  refine ⟨value, error, rfl, held, ?_⟩
  have clean := (Envelope.error?_eq_none_iff value).1 (steps_error?_none rfl ended)
  by_contra truthy
  exact clean (.inl ⟨error, held, by simpa using truthy⟩)

end Run

namespace CommandLine
open Terminal

/-- The exit code and the panels of a command tell how the run of its program ended. -/
structure TellsEnding (result : Result) (ending : Ending) : Prop where
  exit_success : result.exit = .ok 0 ↔ ∃ value, ending = .success value
  exit_canceled : result.exit = .ok 130 ↔ ending = .canceled
  exit_failed : result.exit = .ok 1 ↔ ∃ error step, ending = .failed error step
  shows_success : label "RESULT" "green" ∈ titles result.printed ↔ ∃ value, ending = .success value
  shows_canceled : label "CANCELLED" "yellow" ∈ titles result.printed ↔ ending = .canceled
  shows_failed : label "HALT" "red" ∈ titles result.printed ↔
    ∃ error step, ending = .failed error step

/-- The exit code of a command, and the titles of its panels: that of the program, one for the end
of the run, and one for tools that were asked about. -/
def Closes (result : Result) (code : Nat) (title : Label) : Prop :=
  result.exit = .ok code ∧
    ∃ asked, titles result.printed = label "PROGRAM" "cyan" :: title :: asked ∧
      (asked = [] ∨ asked = [label "TOOLS" "cyan"])

theorem mem_titles_of_closes {result : Result} {code : Nat} {title : Label} (wanted : Label)
    (closes : Closes result code title) (fromStart : wanted ≠ label "PROGRAM" "cyan")
    (fromTools : wanted ≠ label "TOOLS" "cyan") :
    wanted ∈ titles result.printed ↔ wanted = title := by
  obtain ⟨_, asked, shown, none | tools⟩ := closes
  · simp [shown, none, fromStart]
  · simp [shown, tools, fromStart, fromTools]

/-- What is told by the code and the title that are due. -/
theorem tellsEnding_of_closes {result : Result} {ending : Ending}
    (closes : Closes result ending.code ending.title) : TellsEnding result ending := by
  have shown (wanted : Label) (fromStart : wanted ≠ label "PROGRAM" "cyan")
      (fromTools : wanted ≠ label "TOOLS" "cyan") :=
    mem_titles_of_closes wanted closes fromStart fromTools
  have green := shown (label "RESULT" "green") (by decide +kernel) (by decide +kernel)
  have yellow := shown (label "CANCELLED" "yellow") (by decide +kernel) (by decide +kernel)
  have red := shown (label "HALT" "red") (by decide +kernel) (by decide +kernel)
  have green_red : label "RESULT" "green" ≠ label "HALT" "red" := by decide +kernel
  have green_yellow : label "RESULT" "green" ≠ label "CANCELLED" "yellow" := by decide +kernel
  have red_yellow : label "HALT" "red" ≠ label "CANCELLED" "yellow" := by decide +kernel
  cases ending with
  | success value =>
    constructor <;>
      simp [closes.1, green, yellow, red, Ending.code, Ending.title, green_red.symm,
        green_yellow.symm]
  | failed error step =>
    constructor <;>
      simp [closes.1, green, yellow, red, Ending.code, Ending.title, green_red,
        red_yellow.symm]
  | canceled =>
    constructor <;>
      simp [closes.1, green, yellow, red, Ending.code, Ending.title, green_yellow,
        red_yellow]

/-- A success is told by the exit code zero only. -/
theorem not_tellsEnding_of_exit {result : Result} (value : Value) (exit : result.exit ≠ .ok 0) :
    ¬TellsEnding result (.success value) :=
  fun tells => exit (tells.exit_success.2 ⟨value, rfl⟩)

/-- The last event of a run. -/
def lastEvent (o : Outcome) : Event := .result o.payload o.isCanceled

/-- The events that are shown of a run. -/
def eventsOf (c : Course) : List Event :=
  c.statuses.map Event.status ++ (c.closing.toOption.map lastEvent).toList

theorem events_of_notices (c : Course) :
    (c.notices.filterMap fun notice => (Event.ofNotice notice).toOption) = eventsOf c := by
  obtain ⟨statuses, closing⟩ := c
  cases closing <;>
    simp [Course.notices, Notice.ofClosing, List.filterMap_map, Event.ofNotice, Except.toOption,
      eventsOf, lastEvent]

theorem exitAfter_statuses (code : Nat) (statuses : List StatusEvent) :
    (statuses.map Event.status).foldl exitAfter code = code := by
  induction statuses with
  | nil => rfl
  | cons status rest ih => simpa [exitAfter] using ih

theorem join_singleton (last : Output) : Output.join [last] = last := by
  obtain ⟨printed, raised?⟩ := last
  cases raised? <;> simp [Output.join, Output.ofList]

/-- Lines for statuses come before what is shown at the end, and have no titles. -/
theorem join_statuses (statuses : List StatusEvent) (last : List Output) :
    ∃ printed, Output.join ((statuses.map Event.status).map progress ++ last) =
        ⟨printed ++ (Output.join last).printed, (Output.join last).raised?⟩ ∧
      titles printed = [] := by
  induction statuses with
  | nil => exact ⟨[], rfl, rfl⟩
  | cons status rest ih =>
    obtain ⟨printed, joined, untitled⟩ := ih
    refine ⟨stepLine status :: printed, ?_, untitled⟩
    simp only [List.map_cons, List.cons_append, progress, Output.ofList, Output.join, joined,
      List.nil_append]

theorem raised?_andThen (printed : List Printed) (text : Except Raised String)
    (rest : String → List Printed) :
    (Output.andThen printed text rest).raised? = Success.failure? text := by
  cases text <;> rfl

/-- A failure has texts only, so it can always be shown. -/
theorem progress_of_failed {o : Outcome} {error : String} {step : Option String}
    (ended : o.ending = .failed error step) :
    ∃ body, progress (lastEvent o) = .ofList [.blank, panel body "HALT" "red" (0, 2), .blank] := by
  have halted : progress (lastEvent o) = halt ((step.map Value.str).getD .null) (.str error) := by
    simp only [lastEvent, Outcome.payload, Outcome.isCanceled, ended]
    cases step <;> rfl
  rw [halted]
  cases step with
  | none => exact ⟨_, rfl⟩
  | some id =>
    by_cases blank : id = ""
    · subst blank
      exact ⟨_, rfl⟩
    · have present : (Value.str id).test = .ok true := by
        simp [Value.test, Value.untested?, Value.truthy, blank]
      simp only [halt, Option.map_some, Option.getD_some, present]
      exact ⟨_, rfl⟩

/-- Showing the last event raises what the end of the run cannot be shown for. -/
theorem raised?_progress (o : Outcome) :
    (progress (lastEvent o)).raised? = o.ending.unshowable? := by
  simp only [lastEvent, Outcome.payload, Outcome.isCanceled]
  cases ending : o.ending with
  | success value =>
    cases held : value.field? "error" with
    | none => simp [progress, held, finalResult, raised?_andThen, Ending.unshowable?]
    | some error => simp [progress, held, Ending.unshowable?]
  | failed error step =>
    obtain ⟨body, shown⟩ := progress_of_failed ending
    simp only [lastEvent, Outcome.payload, Outcome.isCanceled, ending] at shown
    rw [shown]
    rfl
  | canceled => rfl

/-- The session in which a command runs its program: the signal can be set, and is not. -/
def armed (s : Session World) : Session World :=
  { s with world := { s.world with signal := some false } }

/-- A run shows its events, of which only the last can be impossible to show. -/
theorem execute_of_course {engine : Engine World} {program : Program} {s after : Session World}
    {c : Course}
    (ran : Run.course engine.execute (.ok program) interruptible (armed s) = (c, after)) :
    execute engine program s =
      (match (Output.join ((eventsOf c).map progress)).raised? with
        | some e => .error (.told e)
        | none => c.closing.map fun _ => (eventsOf c).foldl exitAfter exitFailed,
        (Output.join ((eventsOf c).map progress)).printed, after) := by
  have drained := Phase.drain_submitted engine.execute interruptible (.ok program) (armed s)
  rw [ran] at drained
  simp only [armed] at drained
  simp only [execute, drained, events_of_notices, Event.mapM_ofNotice]
  cases (Output.join ((eventsOf c).map progress)).raised? <;> cases c.closing <;> rfl

/-- The last event of a run settles the exit code and the panel, or cannot be shown. -/
theorem execute_of_complete {engine : Engine World} {program : Program} {s after : Session World}
    {r : Report}
    (completed : Run.complete engine.execute (.ok program) interruptible (armed s) =
      (.ok r, after)) :
    ∃ printed, execute engine program s =
        (match r.outcome.ending.unshowable? with
          | some e => .error (.told e)
          | none => .ok (exitAfter exitFailed (lastEvent r.outcome)), printed, after) ∧
      titles printed = titles (progress (lastEvent r.outcome)).printed := by
  obtain ⟨printed, joined, untitled⟩ := join_statuses r.statuses [progress (lastEvent r.outcome)]
  refine ⟨printed ++ (progress (lastEvent r.outcome)).printed, ?_, by simp [untitled]⟩
  have events : eventsOf ⟨r.statuses, .ok r.outcome⟩ =
      r.statuses.map Event.status ++ [lastEvent r.outcome] := rfl
  have shown : Output.join ((eventsOf ⟨r.statuses, .ok r.outcome⟩).map progress) =
      ⟨printed ++ (progress (lastEvent r.outcome)).printed, r.outcome.ending.unshowable?⟩ := by
    rw [events, List.map_append, List.map_singleton, joined, join_singleton, raised?_progress]
  rw [execute_of_course (Run.complete_ok_iff.1 completed), shown, events, List.foldl_append,
    exitAfter_statuses]
  cases r.outcome.ending.unshowable? <;> rfl

/-- An exception that leaves a run leaves no exit code. -/
theorem execute_of_raised {engine : Engine World} {program : Program} {s after : Session World}
    {cause : Thrown}
    (raised : Run.complete engine.execute (.ok program) interruptible (armed s) =
      (.error cause, after)) :
    ∃ printed, execute engine program s = (.error cause, printed, after) ∧
      titles printed = [] := by
  obtain ⟨closed, ended⟩ := Run.complete_error_iff.1 raised
  rcases ran : Run.course engine.execute (.ok program) interruptible (armed s)
    with ⟨⟨statuses, closing⟩, after⟩
  rw [ran] at closed ended
  subst closed ended
  obtain ⟨printed, joined, untitled⟩ := join_statuses statuses []
  have shown :
      Output.join ((eventsOf ⟨statuses, .error cause⟩).map progress) = ⟨printed, none⟩ := by
    simpa [eventsOf, Except.toOption, Output.join, Output.ofList] using joined
  refine ⟨printed, ?_, untitled⟩
  rw [execute_of_course ran, shown]
  rfl

/-- A masked success that can be shown leaves the code and the panel of a failure. -/
theorem lastEvent_of_masked {o : Outcome} (masked : o.ending.Masked)
    (shown : o.ending.unshowable? = none) :
    exitAfter exitFailed (lastEvent o) = 1 ∧
      titles (progress (lastEvent o)).printed = [label "HALT" "red"] := by
  obtain ⟨value, error, success, held, _⟩ := masked
  simp only [success, Ending.unshowable?, held] at shown
  simp only [lastEvent, Outcome.payload, Outcome.isCanceled, success, exitAfter, progress, held]
  refine ⟨rfl, ?_⟩
  simp only [Bool.false_eq_true, if_false]
  generalize (value.field? "failedStep").getD .null = step at shown
  unfold halt at shown ⊢
  dsimp only at shown ⊢
  split
  next e place =>
    rw [place] at shown
    cases shown
  next place found =>
    rw [found] at shown
    dsimp only at shown ⊢
    rw [raised?_andThen] at shown
    cases told : error.text with
    | error e =>
      rw [told] at shown
      cases shown
    | ok text => rfl

/-- Any other end that can be shown leaves its own code and panel. -/
theorem lastEvent_of_plain {o : Outcome}
    (plain : ∀ value, o.ending = .success value → value.field? "error" = none)
    (shown : o.ending.unshowable? = none) :
    exitAfter exitFailed (lastEvent o) = o.ending.code ∧
      titles (progress (lastEvent o)).printed = [o.ending.title] := by
  simp only [lastEvent, Outcome.payload, Outcome.isCanceled]
  cases ending : o.ending with
  | success value =>
    simp only [ending, Ending.unshowable?, plain value ending] at shown
    simp only [exitAfter, progress, plain value ending, finalResult]
    cases told : render value with
    | error e =>
      rw [told] at shown
      cases shown
    | ok text => exact ⟨rfl, rfl⟩
  | failed error step =>
    obtain ⟨body, shown⟩ := progress_of_failed ending
    simp only [lastEvent, Outcome.payload, Outcome.isCanceled, ending] at shown
    exact ⟨rfl, by rw [shown]; rfl⟩
  | canceled => exact ⟨rfl, rfl⟩

theorem takesJson_of_readProgram {content : String} {program : Program}
    (accepted : readProgram content = .ok program) :
    Program.TakesJson (!Text.isOverlong ·) program.steps := by
  have short : Json.TakesShort (!Text.isOverlong ·) := fun n short => by simpa using short
  unfold readProgram at accepted
  split at accepted
  · cases accepted
  next value parsed =>
    exact Program.takesJson_of_read short (Json.isJson_of_parse short parsed)
      (Success.mapError_ok_iff.1 accepted)

/-- Tools that were asked about are always described. -/
theorem describe_ok (engine : Engine World) (names : List String) (s : Session World) :
    ∃ shown, describe engine names s = .ok shown ∧
      (titles shown = [] ∨ titles shown = [label "TOOLS" "cyan"]) := by
  unfold describe
  split
  · exact ⟨[], rfl, .inl rfl⟩
  · obtain ⟨info, answered, shown, tabled, titled⟩ := toolsInfo_ok engine names s
    refine ⟨shown, ?_, .inr titled⟩
    rw [answered]
    exact Success.mapError_ok_iff.2 tabled

/-- A command that runs a program has shown it and done its run before anything else. -/
theorem runFile_of_execute {engine : Engine World} (path : String) {content : String}
    {program : Program} {s after : Session World} {code : Except Thrown Nat}
    {printed : List Printed} (accepted : readProgram content = .ok program)
    (executed : execute engine program s = (code, printed, after)) :
    ∃ before, titles before = [label "PROGRAM" "cyan"] ∧
      runFile engine (some (path, content)) s =
        (code.mapError CommandError.raised |>.map (·, true), before ++ printed, after) := by
  obtain ⟨table, parsed, tabled⟩ := programParsed_ok (takesJson_of_readProgram accepted)
  refine ⟨banner path engine.toolNames.length ++ table, by simp [tabled], ?_⟩
  unfold runFile
  simp only [accepted, runProgram, parsed, executed]
  cases code <;> rfl

/-- A command that runs a program ends with the code of the run, under three titles at most. -/
theorem perform_closes {engine : Engine World} {path content : String} {program : Program}
    {s after : Session World} {code : Nat} {printed : List Printed} {title : Label}
    (arguments : Arguments) (log : LogSetup) (accepted : readProgram content = .ok program)
    (executed : execute engine program s = (.ok code, printed, after))
    (shown : titles printed = [title]) :
    Closes (perform engine arguments (some (path, content)) log s) code title := by
  obtain ⟨before, tabled, ran⟩ := runFile_of_execute path accepted executed
  obtain ⟨asked, described, titled⟩ := describe_ok engine arguments.describe after
  have result : perform engine arguments (some (path, content)) log s =
      ⟨.ok code, before ++ printed ++ asked, log, after⟩ := by
    simp [perform, ran, described, Except.map]
  rw [result]
  exact ⟨rfl, titles asked, by simp [tabled, shown], titled⟩

/-- A command whose run cannot be shown, or is left by an exception, ends without an exit code. -/
theorem perform_raises {engine : Engine World} {path content : String} {program : Program}
    {s after : Session World} {cause : Thrown} {printed : List Printed}
    (arguments : Arguments) (log : LogSetup) (accepted : readProgram content = .ok program)
    (executed : execute engine program s = (.error cause, printed, after)) :
    (perform engine arguments (some (path, content)) log s).exit = .error (.raised cause) := by
  obtain ⟨before, _, ran⟩ := runFile_of_execute path accepted executed
  simp [perform, ran, Except.map]

/-- A command that gets to its work with these: its arguments, its file, its settings and its log
level are in order, and its tools can be installed. -/
structure Starts (tools : Settings → List (Registration World)) (limits : Limits)
    (environment : List (String × String)) (argv : List String) (world : World)
    (engine : Engine World) (arguments : Arguments) (file : Option (String × String))
    (log : LogSetup) (s : Session World) : Prop where
  understood : Arguments.read argv = .ok arguments
  working : arguments.help = false
  found : checkFile world.disk arguments.positional = .ok file
  installed : ∃ settings noted,
    Settings.ofEnvironment environment
      ((world.disk.findUpwards? ".env" world.disk.workingDirectory).getD "") = .ok settings ∧
    LogSetup.initial.set (.str (chosenLevel arguments settings)) = .ok log ∧
    Engine.install settings limits (tools settings) = .ok (engine, noted) ∧
    s = .opening world noted

section
variable {tools : Settings → List (Registration World)} {limits : Limits}
  {environment : List (String × String)} {argv : List String} {world : World}
  {engine : Engine World} {arguments : Arguments} {file : Option (String × String)}
  {log : LogSetup} {s : Session World}

theorem run_of_starts
    (starts : Starts tools limits environment argv world engine arguments file log s) :
    run tools limits environment argv world = perform engine arguments file log s := by
  obtain ⟨settings, noted, configured, levelled, installed, rfl⟩ := starts.installed
  simp [run, starts.understood, starts.working, starts.found, configured, levelled, installed]

/-- The exit code and the panels of a command tell how the run of its program ended, unless it ended
with a masked success, or with one that cannot be shown. A masked success is told as a failure, and
what cannot be shown leaves no exit code. A run that an exception leaves through one of its steps
has no end, and leaves none either. -/
theorem tellsEnding_iff_not_masked {path content : String} {program : Program}
    (starts : Starts tools limits environment argv world engine arguments
      (some (path, content)) log s)
    (accepted : readProgram content = .ok program) :
    (∃ report after,
      Run.complete engine.execute (.ok program) interruptible (armed s) = (.ok report, after) ∧
      (TellsEnding (run tools limits environment argv world) report.outcome.ending ↔
        ¬report.outcome.ending.Masked ∧ report.outcome.ending.unshowable? = none) ∧
      (report.outcome.ending.Masked → report.outcome.ending.unshowable? = none →
        Closes (run tools limits environment argv world) 1 (label "HALT" "red")) ∧
      ∀ e, report.outcome.ending.unshowable? = some e →
        (run tools limits environment argv world).exit = .error (.raised (.told e))) ∨
    ∃ cause after,
      Run.complete engine.execute (.ok program) interruptible (armed s) = (.error cause, after) ∧
      (∃ step ∈ program.steps, ∃ outputs before called,
        Execution.Escapes engine.learning engine.invoke outputs interruptible step before cause
          called) ∧
      (run tools limits environment argv world).exit = .error (.raised cause) := by
  rw [run_of_starts starts]
  rcases completed : Run.complete engine.execute (.ok program) interruptible (armed s)
    with ⟨cause | r, after⟩
  · obtain ⟨printed, executed, _⟩ := execute_of_raised completed
    exact .inr ⟨cause, after, rfl,
      Execution.escapes_of_steps (Run.complete_error_iff.1 completed).1,
      perform_raises arguments log accepted executed⟩
  left
  obtain ⟨printed, executed, shown⟩ := execute_of_complete completed
  have masked (h : r.outcome.ending.Masked) (showable : r.outcome.ending.unshowable? = none) :
      Closes (perform engine arguments (some (path, content)) log s) 1 (label "HALT" "red") := by
    obtain ⟨code, title⟩ := lastEvent_of_masked h showable
    rw [showable, code] at executed
    exact perform_closes arguments log accepted executed (shown.trans title)
  have unshown (e : Raised) (raised : r.outcome.ending.unshowable? = some e) :
      (perform engine arguments (some (path, content)) log s).exit =
        .error (.raised (.told e)) := by
    rw [raised] at executed
    exact perform_raises arguments log accepted executed
  refine ⟨r, after, rfl, ⟨fun tells => ?_, ?_⟩, masked, unshown⟩
  · have showable : r.outcome.ending.unshowable? = none := by
      by_contra held
      obtain ⟨e, raised⟩ := Option.ne_none_iff_exists'.1 held
      cases ending : r.outcome.ending with
      | success value =>
        rw [ending] at tells
        exact not_tellsEnding_of_exit value (by rw [unshown e raised]; nofun) tells
      | failed error step => simp [ending, Ending.unshowable?] at raised
      | canceled => simp [ending, Ending.unshowable?] at raised
    refine ⟨fun h => ?_, showable⟩
    have exit := (masked h showable).1
    obtain ⟨value, _, success, _⟩ := h
    rw [success] at tells
    exact not_tellsEnding_of_exit value (by rw [exit]; nofun) tells
  · rintro ⟨h, showable⟩
    -- An `error` entry in the value of a success is falsy, since its step did not fail.
    have plain (value : Value) (success : r.outcome.ending = .success value) :
        value.field? "error" = none := by
      by_contra held
      obtain ⟨error, held⟩ := Option.ne_none_iff_exists'.1 held
      have closed := Run.closing_of_complete (congrArg Prod.fst completed)
      rcases r with ⟨statuses, ending, outputs⟩
      subst success
      exact h (Run.masked_of_field closed held)
    obtain ⟨code, title⟩ := lastEvent_of_plain plain showable
    rw [showable, code] at executed
    exact tellsEnding_of_closes (perform_closes arguments log accepted executed (shown.trans title))

end

/-! ### A program of one step -/

/-- The text of a program of one step, which calls a tool `t`. -/
def oneStepText : String := "[\x7b\"id\": \"a\", \"tool\": \"t\"\x7d]"

/-- A working directory that holds nothing but that program. -/
def oneStepWorld : World := .fresh ⟨.directory [("p.json", .file oneStepText)], []⟩ .offline

/-- One tool `t`, which always gives one answer. -/
def answering (answer : Value) : List (Registration World) :=
  [.single [("name", .str "t")] fun _ _ w => (.ok answer, w)]

def oneStepEngine (answer : Value) : Engine World :=
  ⟨.standard, Engine.ownRoutes .standard ++
    [("t", .single ⟨"t", "", noParameters⟩ fun _ _ w => (.ok answer, w))], ⟨8, 8⟩⟩

def oneStepSession : Session World := .opening oneStepWorld [.installed 1]

theorem oneStep_starts (answer : Value) :
    Starts (fun _ => answering answer) ⟨8, 8⟩ [] ["p.json"] oneStepWorld (oneStepEngine answer)
      ⟨["p.json"], [], none, false⟩ (some ("p.json", oneStepText)) ⟨.number 30, 1⟩
      oneStepSession := by
  refine ⟨?_, rfl, ?_, .standard, [.installed 1], ?_, ?_, ?_, rfl⟩
  all_goals rfl

/-- What the run of the program comes to: the code that is due, and the payload. -/
def oneStepOutcome (answer : Value) : Option (Nat × Value) :=
  (readProgram oneStepText).toOption.bind fun program =>
    (Run.complete (oneStepEngine answer).execute (.ok program) interruptible
      (armed oneStepSession)).1.toOption.map fun r => (r.outcome.ending.code, r.outcome.payload)

theorem oneStep_success {answer value : Value}
    (computed : oneStepOutcome answer = some (0, value)) :
    ∃ program report after, readProgram oneStepText = .ok program ∧
      Run.complete (oneStepEngine answer).execute (.ok program) interruptible
        (armed oneStepSession) = (.ok report, after) ∧
      report.outcome.ending = .success value := by
  obtain ⟨program, accepted, run⟩ := Option.bind_eq_some_iff.1 computed
  obtain ⟨r, completed, shown⟩ := Option.map_eq_some_iff.1 run
  refine ⟨program, r, _, Success.toOption_eq_some_iff.1 accepted,
    Prod.ext (Success.toOption_eq_some_iff.1 completed) rfl, ?_⟩
  obtain ⟨code, payload⟩ := Prod.mk.inj shown
  simp only [Outcome.payload] at payload
  cases ending : r.outcome.ending with
  | success held =>
    rw [ending] at payload
    rw [← payload]
  | failed error step => simp [ending, Ending.code] at code
  | canceled => simp [ending, Ending.code] at code

/-- A number as the last value is told as a success. -/
theorem tellsEnding_number :
    TellsEnding (run (fun _ => answering (.int 1)) ⟨8, 8⟩ [] ["p.json"] oneStepWorld)
      (.success (.int 1)) := by
  have computed : oneStepOutcome (.int 1) = some (0, .int 1) := by decide +kernel
  obtain ⟨program, report, after, accepted, completed, ended⟩ := oneStep_success computed
  obtain ⟨r, _, same, tells, _⟩ | ⟨cause, _, raised, _⟩ :=
    tellsEnding_iff_not_masked (oneStep_starts (.int 1)) accepted
  swap
  · rw [completed] at raised
    cases raised
  rw [completed] at same
  cases same
  rw [ended] at tells
  refine tells.2 ⟨?_, by decide +kernel⟩
  rintro ⟨value, error, success, held, _⟩
  cases success
  cases held

/-- An object with a null error is stored as a success, and the command halts on it. -/
theorem null_error_exits_failed :
    let answer : Value := .dict [("error", .null), ("ok", .int 1)]
    let result := run (fun _ => answering answer) ⟨8, 8⟩ [] ["p.json"] oneStepWorld
    ∃ program report after, readProgram oneStepText = .ok program ∧
      Run.complete (oneStepEngine answer).execute (.ok program) interruptible
        (armed oneStepSession) = (.ok report, after) ∧
      report.outcome.ending = .success answer ∧
      result.exit = .ok 1 ∧ label "HALT" "red" ∈ titles result.printed ∧
      ¬TellsEnding result report.outcome.ending := by
  intro answer result
  have computed : oneStepOutcome answer = some (0, answer) := by decide +kernel
  obtain ⟨program, report, after, accepted, completed, ended⟩ := oneStep_success computed
  have exit : result.exit = .ok 1 := Success.toOption_eq_some_iff.1 (by decide +kernel)
  refine ⟨program, report, after, accepted, completed, ended, exit, by decide +kernel, ?_⟩
  rw [ended]
  exact not_tellsEnding_of_exit answer (by rw [exit]; nofun)

end CommandLine
end Workflow
