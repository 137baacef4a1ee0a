import Workflow.Proofs.Engine.Nesting
import Workflow.Proofs.Host.Payload

/-!
Running a program as a step. A step whose arguments are a program without placeholders runs this
program as a host would, in a session that differs in its journal alone, which nothing that runs
ever reads. The step then takes in the payload of the run as it takes in any answer: it fails with
the text of the run, and otherwise stores what is inside the envelopes of its value. Only a failure
without a text is taken for a value.
-/
namespace Workflow

variable {σ : Type}

/-! ### Runs do not read the journal -/

/-- The same session with earlier entries in its journal. -/
def Session.preceded (earlier : List Entry) (s : Session σ) : Session σ :=
  { s with recent := s.recent ++ earlier }

/-- Earlier entries in the journal make no difference but to stay there. -/
def Blind {α : Type} (work : Session σ → α × Session σ) : Prop :=
  ∀ earlier s, work (s.preceded earlier) = ((work s).1, (work s).2.preceded earlier)

namespace Execution

variable {learning : Learning} {invoke : Invoker σ} {caller : Caller σ}

theorem learn_preceded (learning : Learning) (tool : String) (value : Value)
    (earlier : List Entry) (s : Session σ) :
    learn learning tool value (s.preceded earlier) =
      (learn learning tool value s).map (Session.preceded earlier) := by
  unfold learn
  split
  · change (Catalogue.record tool value s.learned >>= _) = _
    cases Catalogue.record tool value s.learned <;> rfl
  · rfl

theorem settle_blind (step : Step) (raw : Value) :
    Blind (σ := σ) (settle learning step raw) := by
  intro earlier s
  unfold settle
  cases Envelope.fault? learning.room raw with
  | some e => rfl
  | none =>
  cases Envelope.read raw with
  | error message => rfl
  | ok value =>
    dsimp only
    rw [learn_preceded]
    cases learn learning step.tool value s <;> rfl

theorem conclude_blind (step : Step) (answer : Except Thrown Value) :
    Blind (σ := σ) (conclude learning step answer) := by
  cases answer with
  | ok raw => exact settle_blind step raw
  | error thrown =>
    intro earlier s
    simp only [conclude, failWith]
    cases thrown.description <;> rfl

theorem executeStep_blind (learning : Learning)
    (invoked : ∀ name args, Blind (invoke name args caller)) (outputs : Outputs)
    (producers : List (String × String)) (step : Step) :
    Blind (executeStep learning invoke outputs producers caller step) := by
  intro earlier s
  cases resolved : Template.resolveEntries outputs step.args with
  | error e =>
    simp only [executeStep, resolved]
    rfl
  | ok args =>
    rw [executeStep_of_resolved resolved, executeStep_of_resolved resolved]
    change conclude learning step
      (invoke step.tool (.dict args) caller
        ((s.note (.invoking step.tool step.id)).preceded earlier)).1
      (invoke step.tool (.dict args) caller
        ((s.note (.invoking step.tool step.id)).preceded earlier)).2 = _
    rw [invoked]
    exact conclude_blind step _ earlier _

end Execution

namespace Run

variable {execute : Executor σ} {caller : Caller σ}

theorem steps_blind
    (executed : ∀ outputs producers step, Blind (execute outputs producers caller step))
    (left : List Step) (p : Progress) : Blind (steps execute caller left p) := by
  intro earlier s
  induction left generalizing p s with
  | nil => rfl
  | cons step rest ih =>
    cases stop : caller.canceled s.world with
    | true =>
      have stop' : caller.canceled (s.preceded earlier).world = true := stop
      rw [steps_of_canceled rest stop, steps_of_canceled rest stop']
      rfl
    | false =>
      have stop' : caller.canceled (s.preceded earlier).world = false := stop
      have ran := executed p.outputs p.producers step earlier s
      rcases result : execute p.outputs p.producers caller step s with ⟨answer, after⟩
      rw [result] at ran
      cases answer with
      | error halt => rw [steps_of_halted rest stop result, steps_of_halted rest stop' ran]
      | ok value =>
        rw [steps_of_completed rest stop result, steps_of_completed rest stop' ran, ih]

theorem complete_blind
    (executed : ∀ outputs producers step, Blind (execute outputs producers caller step))
    (reading : Reading) : Blind (complete execute reading caller) := by
  intro earlier s
  match reading with
  | .error (.raised cause) => rfl
  | .error .noSteps => rfl
  | .error (.invalid problems) => rfl
  | .ok program =>
    have noted : (s.preceded earlier).note (.running program.steps.length) =
        (s.note (.running program.steps.length)).preceded earlier := rfl
    have ran := steps_blind executed program.steps .initial earlier
      (s.note (.running program.steps.length))
    simp only [complete, course, noted, ran]

end Run

namespace Engine
open Execution

variable {engine : Engine σ} {caller : Caller σ}

theorem nestedBy_blind {invoke : Invoker σ} (invoked : ∀ name args, Blind (invoke name args caller))
    (reading : Reading) : Blind (engine.nestedBy invoke reading caller) :=
  Run.complete_blind (executeStep_blind engine.learning invoked) reading

theorem invokeWith_blind {nested : Nested σ} (inner : ∀ reading, Blind (nested reading caller))
    (name : String) (args : Value) : Blind (engine.invokeWith nested name args caller) := by
  intro earlier s
  cases found : engine.delegation? name args with
  | some d =>
    rw [invokeWith_of_delegation _ _ _ found, invokeWith_of_delegation _ _ _ found]
    rfl
  | none =>
    obtain route | route | route := route?_of_not_delegated found
    · simp only [invokeWith, route]
      rfl
    · simp only [invokeWith, route]
      rfl
    · rw [invokeWith_of_runProgram _ _ _ _ route, invokeWith_of_runProgram _ _ _ _ route, inner]

theorem invokeAt_blind (engine : Engine σ) (caller : Caller σ) (depth : Nat) (name : String)
    (args : Value) : Blind (engine.invokeAt depth name args caller) := by
  induction depth generalizing name args with
  | zero => exact invokeWith_blind (fun _ _ _ => rfl) name args
  | succ depth ih => exact invokeWith_blind (nestedBy_blind ih) name args

theorem run_blind (engine : Engine σ) (caller : Caller σ) (raw : Value) :
    Blind (engine.run raw caller) := by
  apply Run.complete_blind
  apply executeStep_blind
  exact invokeAt_blind engine caller engine.limits.runs

theorem Works.preceded {context : Value} {s t : Session σ} {trace : Trace σ}
    (work : engine.Works context s trace t) (earlier : List Entry) :
    engine.Works context (s.preceded earlier) trace (t.preceded earlier) := by
  induction work with
  | idle s => exact .idle _
  | notes plain _ ih => exact .notes plain ih
  | learns foreign learned _ ih => exact .learns foreign learned ih
  | calls found _ ih => exact .calls found ih

/-! ### The step and the run -/

variable {step : Step}

/-- A program without placeholders is run alike as a step and by a host, if runs may nest as deep as
it needs. -/
theorem invoke_of_runProgram (caller : Caller σ) (own : engine.route? step.tool = some .runProgram)
    (shaped : (Value.dict step.args).isJson = true) (literal : Template.Literal (.dict step.args))
    (shallow : engine.NestsWithin engine.limits.runs step) (s : Session σ) :
    engine.invoke step.tool (.dict step.args) caller s =
      ((engine.run (.dict step.args) caller s).1.map fun report => report.outcome.payload,
        (engine.run (.dict step.args) caller s).2) := by
  have runs := runsProgram_of_route? own
  obtain ⟨depth, limit⟩ : ∃ depth, engine.limits.runs = depth + 1 := by
    cases limit : engine.limits.runs with
    | zero =>
      rw [limit, NestsWithin, runs] at shallow
      cases shallow
    | succ depth => exact ⟨depth, rfl⟩
  rw [limit] at shallow
  have same : engine.nestedBy (engine.invokeAt depth) (Program.read (.dict step.args)) caller s =
      engine.nestedBy (engine.invokeAt (depth + 1)) (Program.read (.dict step.args)) caller s := by
    apply nestedBy_congr
    intro program read inner member outputs producers t
    have listed := Value.listed_of_isJson (.dict step.args) shaped
    have held : inner ∈ step.inner := by
      rw [Step.inner_of_read (listed.symm ▸ read)]
      exact member
    exact executeStep_of_nestsWithin (fun _ => Step.literal_of_mem_inner literal held)
      (shallow runs inner held) (Nat.le_refl depth) (Nat.le_succ depth) ..
  rw [invoke, limit, invokeAt, invokeWith_of_runProgram _ _ _ _ own, same, Engine.run, execute,
    invoke, limit]
  rfl

/-- One run stands for the program run by a host and run as a step, whatever the journals of the two
hold before. -/
theorem one_run_of_runProgram (caller : Caller σ) (own : engine.route? step.tool = some .runProgram)
    (shaped : (Value.dict step.args).isJson = true) (literal : Template.Literal (.dict step.args))
    (shallow : engine.NestsWithin engine.limits.runs step) (s : Session σ) :
    ∃ answer trace after, engine.Works caller.context s trace after ∧ ∀ earlier,
      engine.run (.dict step.args) caller (s.preceded earlier) = (answer, after.preceded earlier) ∧
      engine.invoke step.tool (.dict step.args) caller (s.preceded earlier) =
        (answer.map fun report => report.outcome.payload, after.preceded earlier) := by
  obtain ⟨trace, work, _⟩ :=
    complete_works (invoke_heeds engine caller) (Program.read (.dict step.args)) s
  refine ⟨(engine.run (.dict step.args) caller s).1, trace, _, work, fun earlier => ⟨?_, ?_⟩⟩
  · exact run_blind engine caller (.dict step.args) earlier s
  · have blind := invokeAt_blind engine caller engine.limits.runs step.tool (.dict step.args)
      earlier s
    rw [← Engine.invoke, invoke_of_runProgram caller own shaped literal shallow s] at blind
    exact blind

/-- What a step takes from the answer of its tool, if nothing is learned: a value or the text of a
failure, unless an exception leaves the step. -/
def taken (room : Nat) : Except Thrown Value → Except Thrown (Except String Value)
  | .error thrown => thrown.description.map .error
  | .ok raw =>
    match Envelope.fault? room raw with
    | some e => .error (.told e)
    | none => .ok (Envelope.read raw)

theorem taken_ok_iff {room : Nat} {raw : Value} {result : Except String Value} :
    taken room (.ok raw) = .ok result ↔
      Envelope.fault? room raw = none ∧ Envelope.read raw = result := by
  simp only [taken]
  cases Envelope.fault? room raw <;> simp

/-- The result of a step that has taken this. -/
def resultOf : Except Thrown (Except String Value) → Except Halt Value
  | .error cause => .error (.raised cause)
  | .ok (.error message) => .error (.failed message)
  | .ok (.ok value) => .ok value

/-- A step that an exception leaves leaves no entry, and any other one. -/
def OneLast {α : Type} (answer : Except Thrown α) (last : List Entry) : Prop :=
  match answer with
  | .error _ => last = []
  | .ok _ => ∃ entry : Entry, entry.isCall = false ∧ last = [entry]

theorem OneLast.works {α : Type} {answer : Except Thrown α} {last : List Entry}
    (one : OneLast answer last) (engine : Engine σ) (context : Value) (s : Session σ) :
    engine.Works context s (last.map (·, s.world)) (last.foldl (fun s entry => s.note entry) s) ∧
      (last.foldl (fun s entry => s.note entry) s).world = s.world ∧
      (last.foldl (fun s entry => s.note entry) s).learned = s.learned := by
  cases answer with
  | error thrown =>
    obtain rfl : last = [] := one
    exact ⟨.idle s, rfl, rfl⟩
  | ok a =>
    obtain ⟨entry, plain, rfl⟩ := one
    exact ⟨.note s plain, rfl, rfl⟩

/-- About its own tools the engine learns nothing, so taking an answer of theirs in leaves a
note. -/
theorem conclude_of_isBuiltin (own : engine.isBuiltin step.tool = true)
    (answer : Except Thrown Value) (s : Session σ) :
    ∃ last, OneLast (taken engine.limits.texts answer) last ∧
      conclude engine.learning step answer s =
        (resultOf (taken engine.limits.texts answer),
          last.foldl (fun s entry => s.note entry) s) := by
  cases answer with
  | error thrown =>
    simp only [conclude, failWith, taken]
    cases thrown.description with
    | error cause => exact ⟨[], rfl, rfl⟩
    | ok message => exact ⟨[_], ⟨_, rfl, rfl⟩, rfl⟩
  | ok raw =>
    simp only [conclude, settle, taken, learning_room]
    cases Envelope.fault? engine.limits.texts raw with
    | some e => exact ⟨[], rfl, rfl⟩
    | none =>
    cases Envelope.read raw with
    | error message => exact ⟨[_], ⟨_, rfl, rfl⟩, rfl⟩
    | ok value =>
      dsimp only
      rw [learn_of_isBuiltin own]
      exact ⟨[_], ⟨_, rfl, rfl⟩, rfl⟩

end Engine

namespace Run
open Execution Engine

variable {engine : Engine σ} {caller : Caller σ}

/-- The value of a success carries no error. -/
theorem error?_of_run {raw value : Value} {report : Report} {s : Session σ}
    (ran : (engine.run raw caller s).1 = .ok report)
    (success : report.outcome.ending = .success value) : Envelope.error? value = none := by
  have closed := closing_of_complete ran
  rcases reading : Program.read raw with refusal | program
  · rw [reading] at closed
    cases refusal with
    | raised cause => cases closed
    | _ =>
      rw [← Except.ok.inj closed] at success
      cases success
  · rw [reading, show report.outcome = ⟨.success value, report.outcome.outputs⟩ by
      rw [← success]] at closed
    exact steps_error?_none rfl closed

/-- A run fails without a text only where the invocation of a step raised a nameless exception. -/
theorem failsNameless_of_empty {raw : Value} {report : Report} {s : Session σ}
    (ran : (engine.run raw caller s).1 = .ok report) (empty : report.outcome.error? = some "") :
    FailsNameless engine caller raw report.outcome := by
  obtain ⟨id, failed⟩ := Outcome.ending_of_empty empty
  have closed := closing_of_complete ran
  rcases reading : Program.read raw with refusal | program
  · rw [reading] at closed
    cases refusal with
    | raised cause => cases closed
    | _ =>
      rw [← Except.ok.inj closed] at failed
      exact absurd (Ending.failed.inj failed).1 (Program.ReadError.message_ne_empty (by simp))
  · rw [reading, show report.outcome = ⟨.failed "" id, report.outcome.outputs⟩ by
      rw [← failed]] at closed
    obtain ⟨step, member, rfl, outputs, producers, t, empty⟩ := exists_failing_step closed
    obtain ⟨args, called, raised⟩ := executeStep_error_empty (Prod.ext empty rfl)
    exact ⟨program, step, args, reading, member, failed, Engine.invoke_nameless raised⟩

/-- A step that runs a program without placeholders does what running this program does, with the
same entries in the same worlds, and then takes the payload in as an answer. Its result is a failure
with the text of the run or what is inside the envelopes of the run's value, unless the run failed
without a text. Where running the program raises, the step fails with what is told about this; where
nothing can be told, the exception leaves the step, too. -/
theorem nested_as_direct (engine : Engine σ) (caller : Caller σ) (outputs : Outputs)
    (producers : List (String × String)) (step : Step) (s : Session σ)
    (own : engine.route? step.tool = some .runProgram)
    (shaped : (Value.dict step.args).isJson = true) (literal : Template.Literal (.dict step.args))
    (shallow : engine.NestsWithin engine.limits.runs step) :
    (∃ depth, ∀ limit, depth ≤ limit → engine.NestsWithin limit step) ∧
    ∃ answer after payload trace last final,
      engine.run (.dict step.args) caller s = (answer, after) ∧
      engine.runProgram (.dict step.args) caller s = (payload, after) ∧
      engine.Works caller.context s trace after ∧
      engine.execute outputs producers caller step s =
        (resultOf (taken engine.limits.texts payload), final) ∧
      engine.Works caller.context s
        ((.invoking step.tool step.id, s.world) :: (trace ++ last.map (·, after.world))) final ∧
      OneLast (taken engine.limits.texts payload) last ∧
      final.world = after.world ∧ final.learned = after.learned ∧
      (∀ cause, Oversized (.dict step.args) cause → answer = .error (.told cause)) ∧
      (∀ thrown, answer = .error thrown → payload = .error thrown ∧
        ((∃ cause, Oversized (.dict step.args) cause ∧ thrown = .told cause) ∨
          LeavesStep engine caller (.dict step.args) thrown)) ∧
      ∀ report, answer = .ok report →
        payload = .ok report.outcome.payload ∧
        (∀ value, report.outcome.ending = .success value →
          taken engine.limits.texts payload =
            match Envelope.fault? engine.limits.texts value with
            | some e => .error (.told e)
            | none =>
              match Envelope.error? (Envelope.unwrap value) with
              | some message => .ok (.error message)
              | none => .ok (.ok (Envelope.unwrap value))) ∧
        ((∀ message, report.outcome.error? = some message →
            taken engine.limits.texts payload = .ok (.error message)) ↔
          ¬FailsNameless engine caller (.dict step.args) report.outcome) := by
  refine ⟨⟨_, fun limit enough => nestsWithin_of_height_le engine enough⟩, ?_⟩
  -- The run of the host and the run of the step follow one run that begins with an empty journal.
  let entry : Entry := .invoking step.tool step.id
  obtain ⟨answer, trace, after, work, alike⟩ :=
    one_run_of_runProgram caller own shaped literal shallow s.withoutJournal
  have direct : engine.run (.dict step.args) caller s = (answer, after.preceded s.recent) :=
    (alike s.recent).1
  have nested : engine.invoke step.tool (.dict step.args) caller (s.note entry) =
      (answer.map fun report => report.outcome.payload, after.preceded (entry :: s.recent)) :=
    (alike (entry :: s.recent)).2
  have resolved : Template.resolveEntries outputs step.args = .ok step.args :=
    Template.resolveEntries_of_isJson outputs step.args
      (fun key value member => literal.within (.entry member .here)) shaped
  have builtin : engine.isBuiltin step.tool = true := by
    simp [isBuiltin, own, Route.isBuiltin]
  let payload : Except Thrown Value := answer.map fun report => report.outcome.payload
  obtain ⟨last, one, concluded⟩ :=
    conclude_of_isBuiltin builtin payload (after.preceded (entry :: s.recent))
  obtain ⟨noted, world, learned⟩ :=
    one.works engine caller.context (after.preceded (entry :: s.recent))
  refine ⟨answer, _, payload, trace, last, _, direct, ?_, work.preceded s.recent, ?_, .notes rfl
    ((work.preceded (entry :: s.recent)).trans noted), one, world, learned, ?_, ?_, ?_⟩
  · rw [Engine.runProgram, direct]
    cases answer <;> rfl
  · rw [Engine.execute, executeStep_of_resolved resolved, nested]
    exact concluded
  · intro cause oversized
    have raised := (raises_of_oversized engine caller .idle _ s oversized).run
    rw [direct] at raised
    exact congrArg Prod.fst raised
  · rintro thrown rfl
    exact ⟨rfl, run_raises engine caller (.dict step.args) s (congrArg Prod.fst direct)⟩
  rintro report rfl
  have ran : (engine.run (.dict step.args) caller s).1 = .ok report := congrArg Prod.fst direct
  refine ⟨rfl, ?_, ?_⟩
  · intro value success
    have clean := error?_of_run ran success
    have same : report.outcome.payload = value := by simp only [Outcome.payload, success]
    simp only [payload, Except.map, taken, same, Envelope.read, clean]
    cases Envelope.fault? engine.limits.texts value with
    | some e => rfl
    | none => cases Envelope.error? (Envelope.unwrap value) <;> rfl
  · constructor
    · rintro fails ⟨_, _, _, _, _, ended, _⟩
      have empty : report.outcome.error? = some "" := by simp only [Outcome.error?, ended]
      exact Envelope.read_error_ne_empty (taken_ok_iff.1 (fails "" empty)).2 rfl
    · intro present message failed
      have told : message ≠ "" := by
        rintro rfl
        exact present (failsNameless_of_empty ran failed)
      exact taken_ok_iff.2 ⟨Outcome.fault?_payload_of_error _ failed told,
        Outcome.read_payload_of_error failed told⟩

/-- Two nested runs, the inner one of a tool that answers in an envelope. -/
theorem nested_as_direct_twice :
    let engine : Engine Unit := ⟨.standard, ownRoutes .standard ++ [("t", .single ⟨"t", "", []⟩
      fun _ _ w => (.ok (.dict [("result", .dict [("data", .int 1)])]), w))], ⟨2, 8⟩⟩
    let caller : Caller Unit := ⟨.null, fun _ => false⟩
    let s : Session Unit := .opening () []
    let inner : Value := .dict [("steps", .list [.dict [("id", .str "i"), ("tool", .str "t")]])]
    let step : Step := ⟨"a", "code_exec_run_program", [("program", .dict [("steps", .list [.dict
      [("id", .str "n"), ("tool", .str "code_exec_run_program"), ("args", inner)]])])], none, none⟩
    engine.route? step.tool = some .runProgram ∧ (Value.dict step.args).isJson = true ∧
      Template.Literal (.dict step.args) ∧ engine.NestsWithin engine.limits.runs step ∧
      ∃ payload after final,
        engine.runProgram (.dict step.args) caller s = (payload, after) ∧
        engine.execute [] [] caller step s = (resultOf (taken engine.limits.texts payload), final) ∧
        taken engine.limits.texts payload = .ok (.ok (.int 1)) ∧ final.learned = after.learned := by
  intro engine caller s inner step
  have literal : Template.Literal (.dict step.args) := (Template.literal_iff _).2 rfl
  have shallow : engine.NestsWithin engine.limits.runs step := by
    intro _ other member
    obtain rfl : other = ⟨"n", "code_exec_run_program",
        [("steps", .list [.dict [("id", .str "i"), ("tool", .str "t")]])], none, none⟩ :=
      List.mem_singleton.1 member
    intro _ other member
    obtain rfl : other = ⟨"i", "t", [], none, none⟩ := List.mem_singleton.1 member
    rfl
  obtain ⟨_, _, after, payload, _, _, final, _, direct, _, executed, _, _, _, learned, _⟩ :=
    nested_as_direct engine caller [] [] step s rfl rfl literal shallow
  have opened : taken engine.limits.texts payload = .ok (.ok (.int 1)) := by
    rw [show payload = _ from (congrArg Prod.fst direct).symm]
    rfl
  exact ⟨rfl, rfl, literal, shallow, payload, after, final, direct, executed, opened, learned⟩

/-- A step stores the payload of a run that failed without a text. -/
theorem nameless_run_stored :
    let engine := Engine.raising .nameless
    let caller : Caller Unit := ⟨.null, fun _ => false⟩
    let s : Session Unit := .opening () []
    let step : Step := ⟨"n", "code_exec_run_program", [("steps", Program.oneStep)], none, none⟩
    ∃ report after final,
      engine.run (.dict step.args) caller s = (.ok report, after) ∧
      report.outcome.error? = some "" ∧
      engine.execute [] [] caller step s =
        (.ok (.dict [("error", .str ""), ("failedStep", .str "a")]), final) := by
  intro engine caller s step
  exact ⟨_, _, _, rfl, rfl, rfl⟩

end Run
end Workflow
