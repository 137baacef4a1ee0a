import Workflow.Proofs.Engine.Registered
import Workflow.Proofs.Envelope.Errors
import Workflow.Proofs.Host.Pulled
import Workflow.Proofs.Path.Followed
import Workflow.Proofs.Template.Substituted

/-!
Steps are total and atomic. Whatever a step is given, it fails or completes. A step that fails
leaves the outputs and what has been learned as they were; one that completes stores the value of
its answer and learns its schema, both or none. Its tool is called once or not at all.
-/
namespace Workflow
open Execution

variable {σ : Type}

/-! ### Resolution errors -/

/-- The expression of an error is a path, unless it is the error that it is none. So what a hint is
about can always be told. -/
def ResolutionError.Traceable (e : ResolutionError) : Prop :=
  (∃ fault, e.cause = .malformed fault) ∨ ∃ path, Path.parse e.expression = .ok path

theorem traceable_of_lookup {outputs : Outputs} {expression : String} {e : ResolutionError}
    (failed : lookup expression outputs = .error (.unresolved e)) : e.Traceable := by
  obtain ⟨_, ⟨fault, _, malformed⟩ | ⟨path, parsed, _⟩⟩ := Path.unresolved_of_lookup failed
  · exact .inl ⟨fault, malformed⟩
  · exact .inr ⟨path, parsed⟩

theorem traceable_of_resolve {outputs : Outputs} {args : List (String × Value)}
    {e : ResolutionError}
    (failed : Template.resolveEntries outputs args = .error (.unresolved e)) : e.Traceable := by
  obtain ⟨expression, _, looked⟩ := Template.exists_comesTo outputs failed
  exact traceable_of_lookup looked

/-! ### Routes -/

namespace Engine

/-- Calls of tools that are not the engine's own teach nothing by themselves. -/
theorem invoke_learned {engine : Engine σ} {name : String}
    (foreign : engine.isBuiltin name = false) (args : Value) (caller : Caller σ) (s : Session σ) :
    (engine.invoke name args caller s).2.learned = s.learned := by
  cases found : engine.delegation? name args with
  | some d =>
    rw [invoke_of_delegation caller s found]
    rfl
  | none =>
    obtain route | route | route := route?_of_not_delegated found
    · rw [invoke_of_route_none args caller s route]
      rfl
    · simp [isBuiltin, route, Route.isBuiltin] at foreign
    · simp [isBuiltin, route, Route.isBuiltin] at foreign

/-- What a step calls between two sessions. If its arguments do not resolve or nothing is registered
under the name of its tool, this is nothing. Otherwise what is registered is called once, with the
resolved arguments: an installed tool, whose call is noted and whose action takes place; the
describing tool, which changes nothing; or the tool that runs programs, which runs its arguments. -/
inductive CallsOnce (engine : Engine σ) (caller : Caller σ) (outputs : Outputs) (step : Step)
    (s after : Session σ) : Prop
  | unresolved {e : ResolveError} :
    Template.resolveEntries outputs step.args = .error e →
    s.Untouched after →
    CallsOnce engine caller outputs step s after
  | unknown {args : List (String × Value)} :
    Template.resolveEntries outputs step.args = .ok args →
    engine.route? step.tool = none →
    s.Untouched after →
    CallsOnce engine caller outputs step s after
  | delegated {args : List (String × Value)} {d : Delegation σ} {called : Session σ} :
    Template.resolveEntries outputs step.args = .ok args →
    engine.delegation? step.tool (.dict args) = some d →
    engine.invoke step.tool (.dict args) caller (s.note (.invoking step.tool step.id)) =
      ((d.action d.given caller.context s.world).1, called) →
    after.called = s.called ++ [d.entry caller.context] →
    after.world = (d.action d.given caller.context s.world).2 →
    CallsOnce engine caller outputs step s after
  | describes {args : List (String × Value)} {called : Session σ} :
    Template.resolveEntries outputs step.args = .ok args →
    engine.route? step.tool = some .describeTools →
    engine.invoke step.tool (.dict args) caller (s.note (.invoking step.tool step.id)) =
      ((engine.describeCall (.dict args) s).mapError .told, called) →
    after.called = s.called →
    after.world = s.world →
    CallsOnce engine caller outputs step s after
  | runs {args : List (String × Value)} {answer : Except Thrown Value} {called : Session σ} :
    Template.resolveEntries outputs step.args = .ok args →
    engine.route? step.tool = some .runProgram →
    (match engine.limits.runs with
      | 0 => (.error (.told ⟨"RecursionError", "maximum recursion depth exceeded"⟩),
        s.note (.invoking step.tool step.id))
      | limit + 1 => (engine.limited limit).runProgram (.dict args) caller
        (s.note (.invoking step.tool step.id))) = (answer, called) →
    engine.invoke step.tool (.dict args) caller (s.note (.invoking step.tool step.id)) =
      (answer, called) →
    after.called = called.called →
    after.world = called.world →
    CallsOnce engine caller outputs step s after

/-- How the steps of an engine take answers in where learning may be turned off. -/
abbrev learningIf (engine : Engine σ) (active : Bool) : Learning :=
  ⟨active, engine.isBuiltin, engine.limits.texts⟩

theorem executeStep_callsOnce (engine : Engine σ) (learning : Learning) (caller : Caller σ)
    (outputs : Outputs) (producers : List (String × String)) (step : Step) (s : Session σ) :
    engine.CallsOnce caller outputs step s
      (executeStep learning engine.invoke outputs producers caller step s).2 := by
  cases resolved : Template.resolveEntries outputs step.args with
  | error e =>
    refine .unresolved resolved ?_
    simp only [executeStep, resolved]
    exact Session.untouched_note rfl s
  | ok args =>
    rw [executeStep_of_resolved resolved]
    obtain ⟨called, world⟩ := conclude_kept learning step
      (engine.invoke step.tool (.dict args) caller (s.note (.invoking step.tool step.id))).1
      (engine.invoke step.tool (.dict args) caller (s.note (.invoking step.tool step.id))).2
    cases found : engine.delegation? step.tool (.dict args) with
    | some d =>
      have invoked := invoke_of_delegation caller (s.note (.invoking step.tool step.id)) found
      rw [invoked] at called world ⊢
      refine .delegated resolved found invoked (called.trans ?_) world
      rw [called_callTool, Session.called_note rfl]
      rfl
    | none =>
      obtain route | route | route := route?_of_not_delegated found
      · refine .unknown resolved route ?_
        rw [invoke_of_route_none _ caller _ route]
        simp only [conclude, settle, fault?_notFound, read_notFound]
        exact ((Session.untouched_note rfl s).trans (Session.untouched_note rfl _)).trans
          (Session.untouched_note rfl _)
      · have invoked := invoke_of_route_describeTools (.dict args) caller
          (s.note (.invoking step.tool step.id)) route
        rw [invoked] at called world ⊢
        exact .describes resolved route invoked (called.trans (Session.called_note rfl s)) world
      · exact .runs resolved route
          (invoke_of_route_runProgram (.dict args) caller _ route).symm rfl called world

end Engine

/-! ### Steps -/

namespace Execution

/-- What a halted step has learned it learned while its tool was called. -/
theorem conclude_error_learned {learning : Learning} {step : Step} {answer : Except Thrown Value}
    {s after : Session σ} {halt : Halt}
    (halted : conclude learning step answer s = (.error halt, after)) :
    after.learned = s.learned := by
  cases answer with
  | error thrown =>
    change failWith step thrown s = _ at halted
    obtain ⟨_, _, same⟩ | ⟨_, _, same⟩ := failWith_cases step thrown s
    all_goals
      rw [same] at halted
      cases halted
      rfl
  | ok raw =>
    simp only [conclude, settle] at halted
    split at halted
    · cases halted
      rfl
    · split at halted
      · cases halted
        rfl
      · split at halted
        · cases halted
          rfl
        · cases halted

theorem learn_learned {learning : Learning} {tool : String} {value : Value} {s t : Session σ}
    (success : learn learning tool value s = .ok t) (foreign : learning.exempt tool = false) :
    if learning.active then
      ∃ schema, Schema.infer value = .ok schema ∧ t.learned = Entries.put tool schema s.learned
    else t.learned = s.learned := by
  cases active : learning.active with
  | false =>
    rw [learn_of_unwanted (by simp [active])] at success
    cases success
    rfl
  | true =>
    rw [learn_of_wanted (by simp [active, foreign])] at success
    obtain ⟨schema, inferred, rfl⟩ := Success.map_ok success
    exact ⟨schema, inferred, rfl⟩

/-- How a step ends, in a run that has some progress, and where the run stands then. A failure has a
cause, keeps the progress and names the step. A success binds the step to the value of the raw
answer. What is learned of a tool that is not the engine's own is the schema of a value that was
stored. An exception that leaves the step stores nothing, and the run is over. -/
inductive Settles (engine : Engine σ) (active : Bool) (caller : Caller σ) (step : Step)
    (rest : List Step) (p : Progress) (s : Session σ) : Notice → Phase → Session σ → Prop
  | fails {message : String} {after : Session σ} :
    Faults (engine.learningIf active) engine.invoke p.outputs p.producers caller step s message →
    (engine.isBuiltin step.tool = false → after.learned = s.learned) →
    Phase.pull (executeStep (engine.learningIf active) engine.invoke) caller
        (.failed step message p) after =
      (some (.ended ⟨.failed message (some step.id), p.outputs⟩), .closed, after) →
    Settles engine active caller step rest p s (.status (.failed step message))
      (.failed step message p) after
  | raises {cause : Thrown} {after : Session σ} :
    Escapes (engine.learningIf active) engine.invoke p.outputs caller step s cause after →
    (engine.isBuiltin step.tool = false → after.learned = s.learned) →
    Settles engine active caller step rest p s (.raised cause) .closed after
  | completes {raw : Value} {called after : Session σ} :
    Answers engine.invoke p.outputs caller step s raw called →
    Envelope.error? (Envelope.unwrap raw) = none →
    (engine.isBuiltin step.tool = false →
      if active then
        ∃ schema, Schema.infer (Envelope.unwrap raw) = .ok schema ∧
          after.learned = Entries.put step.tool schema s.learned
      else after.learned = s.learned) →
    Settles engine active caller step rest p s (.status (.completed step))
      (.before rest ⟨Entries.put step.id (Envelope.unwrap raw) p.outputs,
        Entries.put step.id step.tool p.producers, Envelope.unwrap raw⟩) after

theorem settles_of_halted {engine : Engine σ} {active : Bool} {caller : Caller σ} {step : Step}
    (rest : List Step) {p : Progress} {s after : Session σ} {halt : Halt}
    (halted : executeStep (engine.learningIf active) engine.invoke p.outputs p.producers caller
      step s = (.error halt, after)) :
    Settles engine active caller step rest p s (halt.notice step) (halt.phase step p) after := by
  have kept (foreign : engine.isBuiltin step.tool = false) : after.learned = s.learned := by
    cases resolved : Template.resolveEntries p.outputs step.args with
    | error e =>
      simp only [executeStep, resolved] at halted
      cases halted
      rfl
    | ok args =>
      rw [executeStep_of_resolved resolved] at halted
      exact (conclude_error_learned halted).trans (Engine.invoke_learned foreign _ caller _)
  cases halt with
  | failed message => exact .fails (faults_of_failed halted) kept rfl
  | raised cause => exact .raises (escapes_of_raised halted) kept

theorem settles_of_completed {engine : Engine σ} {active : Bool} {caller : Caller σ} {step : Step}
    (rest : List Step) {p : Progress} {s after : Session σ} {value : Value}
    (completed : executeStep (engine.learningIf active) engine.invoke p.outputs p.producers caller
      step s = (.ok value, after)) :
    Settles engine active caller step rest p s (.status (.completed step))
      (.before rest (p.store step value)) after := by
  obtain ⟨raw, called, answers, settled⟩ := executeStep_ok completed
  obtain ⟨sound, answer, learned, success, rfl⟩ :=
    (settle_ok_iff _ step raw value called after).1 settled
  obtain ⟨_, clean, rfl⟩ := (read_ok_iff raw value).1 answer
  refine .completes answers clean fun foreign => ?_
  obtain ⟨args, _, invoked⟩ := answers
  have kept : called.learned = s.learned := by
    have unchanged := Engine.invoke_learned foreign (.dict args) caller
      (s.note (.invoking step.tool step.id))
    rwa [invoked] at unchanged
  have put := learn_learned success foreign
  rwa [kept] at put

/-- A step that was started fails or completes, whatever its arguments, the outputs, the tools and
their answers are, unless an exception leaves it; it keeps the outputs and the schemas or extends
both. It calls what is registered under the name of its tool once, with the resolved arguments, or
nothing. An exception leaves it exactly where one comes up that has no text or where the answer of
its tool cannot be taken in. -/
theorem settles_atomically (engine : Engine σ) (active : Bool) (caller : Caller σ) (step : Step)
    (rest : List Step) (p : Progress) (s : Session σ) :
    (∀ e, Template.resolveEntries p.outputs step.args = .error (.unresolved e) → e.Traceable) ∧
    (∃ notice next after,
      Phase.pull (executeStep (engine.learningIf active) engine.invoke) caller
        (.started step rest p) s = (some notice, next, after) ∧
      Settles engine active caller step rest p s notice next after ∧
      engine.CallsOnce caller p.outputs step s after) ∧
    ∀ cause after,
      executeStep (engine.learningIf active) engine.invoke p.outputs p.producers caller step s =
          (.error (.raised cause), after) ↔
        Escapes (engine.learningIf active) engine.invoke p.outputs caller step s cause after := by
  refine ⟨fun e failed => traceable_of_resolve failed, ?_,
    fun cause after => ⟨escapes_of_raised, raised_of_escapes⟩⟩
  have calls := engine.executeStep_callsOnce (engine.learningIf active) caller p.outputs
    p.producers step s
  rcases result : executeStep (engine.learningIf active) engine.invoke p.outputs p.producers caller
    step s with ⟨answer, after⟩
  rw [result] at calls
  cases answer with
  | error halt =>
    refine ⟨_, _, after, ?_, settles_of_halted rest result, calls⟩
    simp only [Phase.pull, result]
  | ok value =>
    refine ⟨_, _, after, ?_, settles_of_completed rest result, calls⟩
    simp only [Phase.pull, result]

/-- A step that refers to an output calls its tool once, which counts its calls in its world; one
that refers to an output that is not there fails with a hint that can be told. -/
theorem settles_atomically_counted :
    let engine : Engine Nat :=
      ⟨.standard, [("t", .single ⟨"t", "", []⟩ fun args _ w => (.ok args, w + 1))], ⟨0, 8⟩⟩
    let caller : Caller Nat := ⟨.null, fun _ => false⟩
    let step : Step := ⟨"b", "t", [("x", .str "\x7b\x7ba.c\x7d\x7d")], none, none⟩
    let given : Value := .dict [("x", .int 7)]
    let p : Progress := ⟨[("a", .dict [("c", .int 7)])], [("a", "t")], .null⟩
    let s : Session Nat := .opening 4 []
    (⟨"a.c", .notExecuted "a"⟩ : ResolutionError).Traceable ∧
      ∃ next after,
        Phase.pull (executeStep (engine.learningIf true) engine.invoke) caller
          (.started step [] p) s = (some (.status (.completed step)), next, after) ∧
        Settles engine true caller step [] p s (.status (.completed step)) next after ∧
        engine.CallsOnce caller p.outputs step s after ∧
        next = .before [] ⟨p.outputs ++ [("b", given)], [("a", "t"), ("b", "t")], given⟩ ∧
        after.world = 5 ∧ after.called = [.called "t" "t" given .null] ∧
        after.learned = [("t", .object [("x", .leaf "number")])] := by
  intro engine caller step given p s
  obtain ⟨traceable, _⟩ := settles_atomically engine true caller step [] .initial s
  obtain ⟨_, ⟨notice, next, after, pulled, settles, calls⟩, _⟩ :=
    settles_atomically engine true caller step [] p s
  obtain ⟨_, _, computed, left⟩ : ∃ next after,
      Phase.pull (executeStep (engine.learningIf true) engine.invoke) caller
        (.started step [] p) s = (some (.status (.completed step)), next, after) ∧
      next = .before [] ⟨p.outputs ++ [("b", given)], [("a", "t"), ("b", "t")], given⟩ ∧
      after.world = 5 ∧ after.called = [.called "t" "t" given .null] ∧
      after.learned = [("t", .object [("x", .leaf "number")])] :=
    ⟨_, _, rfl, rfl, rfl, rfl, rfl⟩
  cases pulled.symm.trans computed
  exact ⟨traceable _ rfl, next, after, pulled, settles, calls, left⟩

/-- A tool answers with an error that JSON cannot stand for, another one with a text of more
brackets than there is room for, and a third one raises an exception whose text cannot be asked for.
Each is called, and then an exception leaves its step, which has no result. -/
theorem untaken_answer_leaves_step :
    let key : Raised := ⟨"TypeError", "keys must be str, int, float, bool or None, not tuple"⟩
    let untold : Raised := ⟨"TypeError", "__str__ returned non-string (type int)"⟩
    let unwritable : Value := .dict [("error", .keyed [.other "tuple" "('x', 'y')"] [.int 1])]
    let brackets : Value := .str (String.ofList (List.replicate 5000 '['))
    let engine : Engine Nat :=
      ⟨.standard, [("t", .single ⟨"t", "", []⟩ fun _ _ w => (.ok unwritable, w + 1)),
        ("u", .single ⟨"u", "", []⟩ fun _ _ w => (.ok brackets, w + 1)),
        ("v", .single ⟨"v", "", []⟩ fun _ _ w => (.error (.untold (.told untold)), w + 1))],
        ⟨0, 1000⟩⟩
    let caller : Caller Nat := ⟨.null, fun _ => false⟩
    let s : Session Nat := .opening 4 []
    let execute (tool : String) :=
      executeStep engine.learning engine.invoke [] [] caller ⟨"a", tool, [], none, none⟩ s
    (∃ after, execute "t" = (.error (.raised (.told key)), after) ∧ after.world = 5 ∧
      after.called = [.called "t" "t" (.dict []) .null]) ∧
    (∃ after, execute "u" = (.error (.raised (.told (Json.tooDeep "array"))), after) ∧
      after.world = 5 ∧ after.called = [.called "u" "u" (.dict []) .null]) ∧
    ∃ after, execute "v" = (.error (.raised (.told untold)), after) ∧ after.world = 5 ∧
      after.called = [.called "v" "v" (.dict []) .null] := by
  intro key untold unwritable brackets engine caller s execute
  refine ⟨⟨_, rfl, rfl, rfl⟩, ?_, _, rfl, rfl, rfl⟩
  have answers : ∃ called,
      Answers engine.invoke [] caller ⟨"a", "u", [], none, none⟩ s brackets called ∧
        called.world = 5 ∧ called.called = [.called "u" "u" (.dict []) .null] :=
    ⟨_, ⟨[], rfl, rfl⟩, rfl, rfl⟩
  obtain ⟨called, answers, world, calls⟩ := answers
  have deep : Envelope.fault? engine.learning.room brackets = some (Json.tooDeep "array") :=
    Envelope.fault?_brackets (by decide)
  exact ⟨called, raised_of_escapes (.faulty answers deep), world, calls⟩

end Execution
end Workflow
