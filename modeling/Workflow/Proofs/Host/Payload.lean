import Workflow.Proofs.Engine.Work
import Workflow.Proofs.Envelope.Described
import Workflow.Proofs.Run.Boundary

/-!
What the payload of a run tells a host. The value of a success is never error-shaped, and every
failure has a text, which is the `error` of the payload. That text is empty in one case only: the
tool of the failing step raised an exception that has no text and whose class has no name, or the
step ran a program that such an exception has left. For all other runs that have a payload it alone
tells whether the run succeeded.
-/
namespace Workflow

/-- A refusal has a text. -/
theorem Program.ReadError.message_ne_empty {e : ReadError} (refusal : ∀ cause, e ≠ .raised cause) :
    e.message ≠ "" := by
  cases e with
  | noSteps => decide
  | invalid problems =>
    intro empty
    exact absurd (String.append_eq_empty_iff.1 empty).1 (by decide)
  | raised cause => exact absurd rfl (refusal cause)

/-! ### Failures without a text -/

/-- An exception that has no text, of a class that has no name. -/
def Raised.nameless : Raised := ⟨"", ""⟩

theorem Raised.description_eq_empty_iff (e : Raised) : e.description = "" ↔ e = nameless := by
  obtain ⟨kind, text⟩ := e
  by_cases blank : text = "" <;> simp [description, nameless, blank]

/-- A nameless exception, or one whose text cannot be asked for since this comes to a nameless
one. -/
inductive Thrown.Nameless : Thrown → Prop
  | told : Nameless (.told .nameless)
  | untold {cause : Thrown} : Nameless cause → Nameless (.untold cause)

theorem Thrown.nameless_told_iff (e : Raised) : (told e).Nameless ↔ e = .nameless := by
  constructor
  · rintro ⟨⟩
    rfl
  · rintro rfl
    exact .told

/-- What is told about an exception is empty for a nameless one only. -/
theorem Thrown.description_eq_empty_iff (thrown : Thrown) :
    thrown.description = .ok "" ↔ thrown = .told .nameless := by
  cases thrown with
  | told e => simp [description, Raised.description_eq_empty_iff]
  | _ => simp [description]

/-- A nameless exception leaves only where the text of another one was asked for. -/
theorem Thrown.Nameless.eq_untold {thrown cause : Thrown} (nameless : Nameless cause)
    (untold : thrown.description = .error cause) : thrown = .untold cause := by
  cases thrown with
  | told e => cases untold
  | untold inner =>
    cases untold
    rfl
  | exit e =>
    cases untold
    cases nameless

namespace Execution

variable {σ : Type}

theorem unresolvedText_ne_empty (learning : Learning) (learned : List (String × Schema))
    (producers : List (String × String)) (step : Step) (e : ResolveError) :
    unresolvedText learning learned producers step e ≠ "" := by
  intro empty
  unfold unresolvedText at empty
  simp only [String.append_eq_empty_iff, toString, and_assoc] at empty
  exact absurd empty.1 (by decide)

/-- A step fails without a text only where its tool raised a nameless exception. -/
theorem executeStep_error_empty {learning : Learning} {invoke : Invoker σ} {outputs : Outputs}
    {producers : List (String × String)} {caller : Caller σ} {step : Step} {s after : Session σ}
    (failed : executeStep learning invoke outputs producers caller step s =
      (.error (.failed ""), after)) :
    ∃ args called, invoke step.tool (.dict args) caller (s.note (.invoking step.tool step.id)) =
      (.error (.told .nameless), called) := by
  generalize empty : "" = message at failed
  cases faults_of_failed failed with
  | unresolved => exact absurd empty.symm (unresolvedText_ne_empty learning _ producers step _)
  | @raised args thrown called _ _ invoked told =>
    obtain rfl := (Thrown.description_eq_empty_iff thrown).1 (empty ▸ told)
    exact ⟨args, called, invoked⟩
  | erroneous _ _ answered => exact absurd empty.symm (Envelope.read_error_ne_empty answered)
  | unreadable => simp [eq_comm (a := ""), String.append_eq_empty_iff, toString] at empty

end Execution

/-- What reading a program raises has a name. -/
theorem Program.read_ne_nameless (raw : Value) : read raw ≠ .error (.raised .nameless) := by
  intro refused
  rcases (read_raised_iff raw _).1 refused with ⟨_, _, _, _, same⟩ | ⟨_, same⟩
  all_goals
    have named := congrArg Raised.kind same
    simp [Raised.nameless, Raised.overlong] at named

namespace Engine
open Execution

variable {σ : Type}

/-- The describing tool does not raise nameless exceptions: it raises what the text of some name
raises, about which something can be told. -/
theorem describeCall_ne_nameless (engine : Engine σ) (args : List (String × Value))
    (s : Session σ) : engine.describeCall (.dict args) s ≠ .error .nameless := by
  intro raised
  have asked : engine.describeTools ((args.lookup "tools_names").getD .null) s =
      .error .nameless := raised
  generalize (args.lookup "tools_names").getD .null = names at asked
  cases names with
  | list names =>
    simp only [describeTools, Catalogue.answer] at asked
    cases told : names.mapM Value.text with
    | error e =>
      rw [told] at asked
      obtain ⟨name, _, untold⟩ := Value.exists_of_mapM_text_error told
      exact Value.description_ne_empty_of_text untold
        (congrArg Raised.description (Except.error.inj asked))
    | ok texts =>
      rw [told] at asked
      cases asked
  | _ => cases asked

/-- A tool raises this in some world. -/
def ToolRaises (engine : Engine σ) (caller : Caller σ) (name : String)
    (args : List (String × Value)) (thrown : Thrown) : Prop :=
  ∃ d world, engine.delegation? name (.dict args) = some d ∧
    (d.action d.given caller.context world).1 = .error thrown

/-- Some tool raises an exception whose text cannot be asked for, since this comes to a nameless
one. -/
def ToolRaisesUntold (engine : Engine σ) (caller : Caller σ) : Prop :=
  ∃ name args cause, engine.ToolRaises caller name args (.untold cause) ∧ cause.Nameless

/-- A nested run is left by a nameless exception only where some tool raises what comes to it. -/
def UntoldWithin (engine : Engine σ) (caller : Caller σ) (nested : Nested σ) : Prop :=
  ∀ raw s thrown, (nested (Program.read raw) caller s).1 = .error thrown → thrown.Nameless →
    engine.ToolRaisesUntold caller

/-- An invocation raises a nameless exception only where its own tool does or, for a program, some
tool of a step. -/
theorem invokeWith_nameless {engine : Engine σ} {nested : Nested σ} {name : String}
    {args : List (String × Value)} {caller : Caller σ} {s after : Session σ} {thrown : Thrown}
    (within : engine.UntoldWithin caller nested) (nameless : thrown.Nameless)
    (raised : engine.invokeWith nested name (.dict args) caller s = (.error thrown, after)) :
    engine.ToolRaises caller name args thrown ∨
      engine.route? name = some .runProgram ∧ engine.ToolRaisesUntold caller := by
  cases found : engine.delegation? name (.dict args) with
  | some d =>
    rw [invokeWith_of_delegation nested caller s found] at raised
    exact .inl ⟨d, s.world, found, congrArg Prod.fst raised⟩
  | none =>
    obtain route | route | route := route?_of_not_delegated found
    · simp [invokeWith, route] at raised
    · simp only [invokeWith, route, Prod.mk.injEq] at raised
      obtain ⟨e, untold, rfl⟩ := Success.mapError_error_iff.1 raised.1
      cases nameless
      exact absurd untold (describeCall_ne_nameless engine args s)
    · rw [invokeWith_of_runProgram nested _ caller s route, Prod.mk.injEq] at raised
      exact .inr ⟨route, within _ s thrown (Success.map_error_iff.1 raised.1) nameless⟩

theorem invokeAt_nameless {engine : Engine σ} {depth : Nat} {name : String}
    {args : List (String × Value)} {caller : Caller σ} {s after : Session σ} {thrown : Thrown}
    (nameless : thrown.Nameless)
    (raised : engine.invokeAt depth name (.dict args) caller s = (.error thrown, after)) :
    engine.ToolRaises caller name args thrown ∨
      engine.route? name = some .runProgram ∧ engine.ToolRaisesUntold caller := by
  induction depth generalizing name args s after thrown with
  | zero =>
    refine invokeWith_nameless (fun _ _ _ deep nameless => ?_) nameless raised
    obtain rfl := Except.error.inj deep
    simp [Thrown.nameless_told_iff, Raised.nameless] at nameless
  | succ depth ih =>
    refine invokeWith_nameless (fun raw t inner ran nameless => ?_) nameless raised
    have closed := Success.map_error_iff.1 ran
    rcases reading : Program.read raw with refusal | program
    · rw [reading] at closed
      cases refusal with
      | raised cause =>
        cases closed
        cases nameless
        exact absurd reading (Program.read_ne_nameless raw)
      | _ => cases closed
    · rw [reading] at closed
      obtain ⟨step, _, _, _, _, escapes⟩ := escapes_of_steps closed
      cases escapes with
      | untold _ invoked untold =>
        -- What leaves the inner step is one `untold` less than what its tool raised.
        obtain rfl := nameless.eq_untold untold
        obtain own | ⟨_, some⟩ := ih (.untold nameless) invoked
        · exact ⟨_, _, inner, own, nameless⟩
        · exact some
      | faulty _ fault =>
        cases nameless
        exact absurd rfl (Envelope.description_ne_empty_of_fault fault)

/-- An invocation raises a nameless exception where its own tool does, or where it runs a program
and some tool raises one whose text comes to it. -/
theorem invoke_nameless {engine : Engine σ} {name : String} {args : List (String × Value)}
    {caller : Caller σ} {s after : Session σ}
    (raised : engine.invoke name (.dict args) caller s = (.error (.told .nameless), after)) :
    engine.ToolRaises caller name args (.told .nameless) ∨
      engine.route? name = some .runProgram ∧ engine.ToolRaisesUntold caller :=
  invokeAt_nameless .told raised

end Engine

/-- A run that has failed has a step that failed with this text. -/
theorem Run.exists_failing_step {σ : Type} {execute : Executor σ} {caller : Caller σ}
    {left : List Step} {p : Progress} {s : Session σ} {message : String} {id : Option String}
    {outputs : Outputs}
    (failed : (steps execute caller left p s).1.closing = .ok ⟨.failed message id, outputs⟩) :
    ∃ step ∈ left, id = some step.id ∧ ∃ outputs producers t,
      (execute outputs producers caller step t).1 = .error (.failed message) := by
  induction left generalizing p s with
  | nil => cases failed
  | cons step rest ih =>
    cases stop : caller.canceled s.world with
    | true =>
      rw [steps_of_canceled rest stop] at failed
      cases failed
    | false =>
      rcases result : execute p.outputs p.producers caller step s with ⟨answer, after⟩
      cases answer with
      | error halt =>
        rw [steps_of_halted rest stop result] at failed
        cases halt with
        | failed text =>
          cases failed
          exact ⟨step, by simp, rfl, p.outputs, p.producers, s, congrArg Prod.fst result⟩
        | raised cause => cases failed
      | ok value =>
        rw [steps_of_completed rest stop result] at failed
        obtain ⟨other, member, same⟩ := ih failed
        exact ⟨other, .tail step member, same⟩

/-! ### Payloads -/

/-- The payload of what is no success is an object with the error. -/
theorem Outcome.exists_payload_of_error {outcome : Outcome} {message : String}
    (told : outcome.error? = some message) :
    ∃ entries, outcome.payload = .dict entries ∧ entries.lookup "error" = some (.str message) := by
  unfold error? at told
  unfold payload
  cases ending : outcome.ending with
  | success value => simp [ending] at told
  | failed error step =>
    simp only [ending, Option.some.injEq] at told
    subst told
    exact ⟨_, rfl, rfl⟩
  | canceled =>
    simp only [ending, Option.some.injEq] at told
    subst told
    exact ⟨_, rfl, rfl⟩

/-- A payload with a text under `error` is read as this failure. -/
theorem Outcome.read_payload_of_error {outcome : Outcome} {message : String}
    (told : outcome.error? = some message) (present : message ≠ "") :
    Envelope.read outcome.payload = .error message := by
  obtain ⟨entries, shown, held⟩ := exists_payload_of_error told
  rw [shown]
  exact Execution.read_of_error held present

theorem Outcome.fault?_payload_of_error (room : Nat) {outcome : Outcome} {message : String}
    (told : outcome.error? = some message) (present : message ≠ "") :
    Envelope.fault? room outcome.payload = none := by
  obtain ⟨entries, shown, held⟩ := exists_payload_of_error told
  rw [shown]
  exact Execution.fault?_of_error room held present

/-- Only a failure has no text. -/
theorem Outcome.ending_of_empty {outcome : Outcome} (empty : outcome.error? = some "") :
    ∃ step, outcome.ending = .failed "" step := by
  unfold error? at empty
  cases ending : outcome.ending with
  | success value => simp [ending] at empty
  | failed message step =>
    simp only [ending, Option.some.injEq] at empty
    exact ⟨step, by rw [empty]⟩
  | canceled => simp [ending, canceledText] at empty

/-- What is read as a value was a success, unless a failure has no text. -/
theorem Outcome.success_of_read {outcome : Outcome} {value : Value}
    (told : outcome.error? ≠ some "") (read : Envelope.read outcome.payload = .ok value) :
    ∃ value, outcome.ending = .success value := by
  cases error : outcome.error? with
  | none =>
    unfold error? at error
    cases ending : outcome.ending with
    | success value => exact ⟨value, rfl⟩
    | failed message step => simp [ending] at error
    | canceled => simp [ending] at error
  | some message =>
    have present : message ≠ "" := by
      rintro rfl
      exact told error
    rw [read_payload_of_error error present] at read
    cases read

section
variable {σ : Type}

/-- The line for a host says that a workflow failed. -/
def ReportsFailure (line : Except Raised (Option String)) : Prop :=
  ∃ text, line = .ok (some text) ∧ "Workflow failed: ".toList <+: text.toList

/-- The payload alone tells whether a run succeeded: by a truthy `error` entry, which is a text that
is not empty, and by the line that announces the result. -/
structure PayloadTells (engine : Engine σ) (outcome : Outcome) : Prop where
  error_iff : Envelope.HasError outcome.payload ↔ ∀ value, outcome.ending ≠ .success value
  error_text : (∀ value, outcome.ending ≠ .success value) →
    ∃ text, outcome.payload.field? "error" = some (.str text) ∧ text ≠ ""
  no_error_text : ∀ value, outcome.ending = .success value →
    ¬Envelope.SaysError outcome.payload
  line_iff : ∀ args, ReportsFailure
      (Host.completedLine? engine (Engine.runName engine.settings) args outcome.payload) ↔
    ∀ value, outcome.ending ≠ .success value

/-- The run of a program ended with a failure without a text, since the tool of the step that failed
raised a nameless exception, or since such an exception has left the program that this step ran. -/
def FailsNameless (engine : Engine σ) (caller : Caller σ) (raw : Value) (outcome : Outcome) :
    Prop :=
  ∃ (program : Program) (step : Step) (args : List (String × Value)),
    Program.read raw = .ok program ∧ step ∈ program.steps ∧
    outcome.ending = .failed "" (some step.id) ∧
    (engine.ToolRaises caller step.tool args (.told .nameless) ∨
      engine.route? step.tool = some .runProgram ∧ engine.ToolRaisesUntold caller)

/-- The error of a result is found if it can be tested. -/
theorem Host.errorOf?_of_tested {result : Value}
    (tested : ∀ error, result.field? "error" = some error → error.truthy = true →
      error.untested? = none) :
    Host.errorOf? result = .ok ((result.field? "error").filter Value.truthy) := by
  unfold Host.errorOf?
  cases held : result.field? "error" with
  | none => rfl
  | some error =>
    cases present : error.truthy with
    | true =>
      simp [Value.test, tested error held present, present, Functor.map, Except.map, Option.filter]
    | false =>
      simp [Value.test, Envelope.untested?_of_not_truthy present, present, Functor.map, Except.map,
        Option.filter]

/-- The line of a result with an error reports it, if the error can be tested and has a text. -/
theorem reportsFailure_iff (engine : Engine σ) (args : Value) {result : Value}
    (told : ∀ error, result.field? "error" = some error → error.truthy = true →
      error.untested? = none ∧ ∃ text, error.text = .ok text) :
    ReportsFailure (Host.completedLine? engine (Engine.runName engine.settings) args result) ↔
      Envelope.HasError result := by
  have noPrefix (n : Nat) :
      ¬"Workflow failed: ".toList <+: s!"Completed workflow with {n} steps".toList := by
    rintro ⟨rest, same⟩
    have first := congrArg List.head? same
    simp [toString] at first
  have shown : Envelope.HasError result ↔
      ((result.field? "error").filter Value.truthy).isSome = true := by
    unfold Envelope.HasError
    cases result.field? "error" <;> simp
  rw [shown]
  simp only [Host.completedLine?, Request.runName_ne_describeName, if_false, if_true,
    Host.errorOf?_of_tested fun error held present => (told error held present).1, bind,
    Except.bind]
  cases found : (result.field? "error").filter Value.truthy with
  | none => simpa [ReportsFailure] using noPrefix _
  | some error =>
    obtain ⟨held, present⟩ := Option.filter_eq_some_iff.1 found
    obtain ⟨_, text, told⟩ := told error held present
    simp only [told, Option.isSome_some, iff_true]
    exact ⟨_, rfl, ⟨text.toList, by simp [toString]⟩⟩

/-- A payload tells about clean successes and about failures with a text. -/
theorem payloadTells_of_texts {engine : Engine σ} {outcome : Outcome}
    (clean : ∀ value, outcome.ending = .success value → Envelope.error? value = none)
    (texts : ∀ step, outcome.ending ≠ .failed "" step) : PayloadTells engine outcome := by
  have failure (message : String) (present : message ≠ "")
      (held : outcome.payload.field? "error" = some (.str message))
      (ended : ∀ value, outcome.ending ≠ .success value) : PayloadTells engine outcome := by
    have error : Envelope.HasError outcome.payload :=
      ⟨_, held, by simpa [Value.truthy] using present⟩
    refine ⟨⟨fun _ => ended, fun _ => error⟩, fun _ => ⟨message, held, present⟩, ?_, fun args => ?_⟩
    · intro value success
      exact absurd success (ended value)
    · rw [reportsFailure_iff engine args fun other held' _ => ?_]
      · exact ⟨fun _ => ended, fun _ => error⟩
      · rw [held] at held'
        cases held'
        exact ⟨rfl, message, rfl⟩
  cases ending : outcome.ending with
  | success value =>
    have plain := (Envelope.error?_eq_none_iff value).1 (clean value ending)
    have payload : outcome.payload = value := by simp only [Outcome.payload, ending]
    have error : Envelope.HasError outcome.payload ↔ ∀ value, outcome.ending ≠ .success value := by
      rw [payload]
      exact ⟨fun error => absurd (.inl error) plain, fun other => absurd ending (other value)⟩
    refine ⟨error, fun other => absurd ending (other value), ?_, fun args => ?_⟩
    · intro _ _ worded
      exact plain (.inr (payload ▸ worded))
    · rw [reportsFailure_iff engine args fun other held present => ?_]
      · exact error
      · exact absurd (.inl ⟨other, payload ▸ held, present⟩) plain
  | failed message step =>
    have present : message ≠ "" := by
      rintro rfl
      exact texts step ending
    exact failure message present (by simp only [Outcome.payload, ending]; rfl) (by simp [ending])
  | canceled =>
    exact failure canceledText (by decide) (by simp only [Outcome.payload, ending]; rfl)
      (by simp [ending])

/-- An empty text is no error that a host could see. -/
theorem not_payloadTells_of_empty {engine : Engine σ} {outcome : Outcome} {step : Option String}
    (ended : outcome.ending = .failed "" step) : ¬PayloadTells engine outcome := by
  intro tells
  obtain ⟨error, held, present⟩ := tells.error_iff.2 (by simp [ended])
  have empty : outcome.payload.field? "error" = some (.str "") := by
    simp only [Outcome.payload, ended]
    rfl
  rw [empty, Option.some.injEq] at held
  subst held
  cases present

end

/-- A program of one step, which calls a tool `t`. -/
def Program.oneStep : Value := .list [.dict [("id", .str "a"), ("tool", .str "t")]]

/-- An engine with one tool, which always raises one exception. -/
def Engine.raising (raised : Raised) : Engine Unit :=
  ⟨.standard, Engine.ownRoutes .standard ++
    [("t", .single ⟨"t", "", []⟩ fun _ _ w => (.error (.told raised), w))], ⟨8, 8⟩⟩

namespace Run
open Execution

variable {σ : Type} {learning : Learning} {invoke : Invoker σ} {caller : Caller σ}
  {interim : Interim σ}

/-- What completed steps leave as the value of the run carries no error. -/
theorem Completed.error?_none {k : Nat} {p q : Progress} {s t : Session σ}
    {done : List (Step × Value)}
    (completed : Completed learning invoke caller interim k p s done q t)
    (clean : Envelope.error? p.value = Option.none) : Envelope.error? q.value = Option.none := by
  induction completed with
  | none k p s => exact clean
  | next _ _ settled _ ih =>
    obtain ⟨_, answer, _⟩ := (settle_ok_iff ..).1 settled
    exact ih ((read_ok_iff ..).1 answer).2.1

/-- Every run that is decided has an outcome that its payload tells, unless it fails nameless. It
has none where an exception leaves one of its steps. -/
theorem payload_tells_iff (engine : Engine σ) (caller : Caller σ) (interim : Interim σ)
    (raw : Value) (s : Session σ) (proper : ¬∃ cause, Oversized raw cause) :
    (∃ statuses outcome after,
      Observed engine caller interim raw s
        (List.map Event.status statuses ++ [.result outcome.payload outcome.isCanceled]) outcome
        after ∧
      (interim = .idle → engine.runProgram raw caller s = (.ok outcome.payload, after)) ∧
      (PayloadTells engine outcome ↔ ¬FailsNameless engine caller raw outcome)) ∨
    ∃ statuses cause after,
      Interrupted engine caller interim raw s (List.map Event.status statuses) cause after ∧
      LeavesStep engine caller raw cause := by
  have tells {statuses : List StatusEvent} {outcome : Outcome} {after : Session σ}
      (drained : Phase.drainAmid engine.execute caller interim (.submitted (Program.read raw)) s =
        ((⟨statuses, .ok outcome⟩ : Course).notices, .closed, after))
      (clean : ∀ value, outcome.ending = .success value → Envelope.error? value = none)
      (texts : ∀ step, outcome.ending = .failed "" step → FailsNameless engine caller raw outcome) :
      ∃ statuses outcome after,
        Observed engine caller interim raw s
          (List.map Event.status statuses ++ [.result outcome.payload outcome.isCanceled]) outcome
          after ∧
        (interim = .idle → engine.runProgram raw caller s = (.ok outcome.payload, after)) ∧
        (PayloadTells engine outcome ↔ ¬FailsNameless engine caller raw outcome) := by
    have observed := observed_of_drainAmid drained
    refine ⟨statuses, outcome, after, observed, ?_, ?_, ?_⟩
    · rintro rfl
      exact observed.runProgram
    · rintro tells ⟨_, _, _, _, _, ended, _⟩
      exact not_payloadTells_of_empty ended tells
    · exact fun named => payloadTells_of_texts clean fun step ended => named (texts step ended)
  have decided := (decided_read_iff raw).2 proper
  rcases reading : Program.read raw with refusal | program
  · have known (cause : Raised) (same : refusal = .raised cause) : False :=
      decided cause (same ▸ reading)
    refine .inl (tells (drainAmid_of_refused engine caller interim s reading known) (by simp) ?_)
    rintro _ ended
    exact absurd (Ending.failed.inj ended).1 (Program.ReadError.message_ne_empty known)
  · obtain ⟨done, rest, p, t, tail, closing, after, split, completed, finish, taken⟩ :=
      takeAmid_before engine.learning engine.invoke caller interim program.steps 0 .initial
        (s.note (.running program.steps.length))
    have drained : Phase.drainAmid engine.execute caller interim (.submitted (Program.read raw)) s =
        ((⟨stages done ++ tail, closing.map Prod.fst⟩ : Course).notices, .closed, after) := by
      rw [reading, ← taken]
      rfl
    cases finish with
    | success =>
      refine .inl (tells drained ?_ (by simp))
      rintro value ⟨⟩
      exact completed.error?_none rfl
    | canceled => exact .inl (tells drained (by simp) (by simp))
    | @failed step rest message _ _ failed =>
      refine .inl (tells drained (by simp) ?_)
      rintro _ ⟨⟩
      -- No other way to fail leaves the text empty, so the invocation of the failing step raised.
      obtain ⟨args, called, raised⟩ := executeStep_error_empty failed
      exact ⟨program, step, args, reading, by simp [split], rfl, Engine.invoke_nameless raised⟩
    | @raised step rest cause _ _ escapes =>
      exact .inr ⟨_, cause, after, interrupted_of_drainAmid drained, program, step, _, _, _,
        reading, by simp [split], escapes⟩

/-- An exception without a text is told by the name of its class. -/
theorem payload_tells_class_name :
    let engine := Engine.raising ⟨"ValueError", ""⟩
    let caller : Caller Unit := ⟨.null, fun _ => false⟩
    let s : Session Unit := .opening () []
    (¬∃ cause, Oversized Program.oneStep cause) ∧
      ∃ outcome after, engine.runProgram Program.oneStep caller s = (.ok outcome.payload, after) ∧
        outcome.ending = .failed "ValueError" (some "a") ∧ PayloadTells engine outcome := by
  intro engine caller s
  have proper : ¬∃ cause, Oversized Program.oneStep cause :=
    (decided_read_iff _).1 nofun
  have computed : (engine.run Program.oneStep caller s).1.map (fun r => r.outcome.ending) =
      .ok (.failed "ValueError" (some "a")) := rfl
  obtain ⟨statuses, outcome, after, ⟨_, _, _, ran⟩, payload, tells⟩ |
      ⟨_, _, _, ⟨_, _, _, _, ran⟩, _⟩ :=
    payload_tells_iff engine caller .idle Program.oneStep s proper
  rotate_left
  · rw [ran rfl] at computed
    cases computed
  have ended : outcome.ending = .failed "ValueError" (some "a") := by
    rw [ran rfl] at computed
    exact Except.ok.inj computed
  refine ⟨proper, outcome, after, payload rfl, ended, tells.2 ?_⟩
  rintro ⟨_, _, _, _, _, nameless, _⟩
  simp [ended] at nameless

/-- A failure by a nameless exception has a payload that looks like a success. -/
theorem nameless_failure_untold :
    let engine := Engine.raising .nameless
    let caller : Caller Unit := ⟨.null, fun _ => false⟩
    let s : Session Unit := .opening () []
    ∃ report after, engine.run Program.oneStep caller s = (.ok report, after) ∧
      report.outcome.ending = .failed "" (some "a") ∧
      ¬PayloadTells engine report.outcome ∧
      Host.completedLine? engine "code_exec_run_program" Program.oneStep report.outcome.payload =
        .ok (some "Completed workflow with 1 steps") := by
  intro engine caller s
  exact ⟨_, _, rfl, rfl, not_payloadTells_of_empty rfl, by decide⟩

end Run
end Workflow
