import Workflow.Proofs.Envelope.Errors
import Workflow.Proofs.Execution.Step
import Workflow.Proofs.Program.Accepted
import Workflow.Proofs.Run.Interim

/-!
The course of a run. Some first steps are completed one after the other, each with the answer of its
tool; then the run ends in one of three ways or is left by an exception, and nothing follows.
`Completed` is the part before the end, `Finishes` the end, and both hold of the pulled events and
of the outcome, whatever the tools do and whatever happens between the pulls.
-/
namespace Workflow.Run
open Execution

variable {σ : Type}

/-- Steps that are completed one after the other, with the raw answers of their tools. Before each
the signal is read and is not set; the first event has the number `k`. -/
inductive Completed (learning : Learning) (invoke : Invoker σ) (caller : Caller σ)
    (interim : Interim σ) :
    Nat → Progress → Session σ → List (Step × Value) → Progress → Session σ → Prop
  | none (k : Nat) (p : Progress) (s : Session σ) :
    Completed learning invoke caller interim k p s [] p s
  | next {k : Nat} {p q : Progress} {s called after t : Session σ} {step : Step} {raw : Value}
      {done : List (Step × Value)} :
    caller.canceled s.world = false →
    Answers invoke p.outputs caller step (interim k s) raw called →
    settle learning step raw called = (.ok (Envelope.unwrap raw), after) →
    Completed learning invoke caller interim (k + 2) (p.store step (Envelope.unwrap raw))
      (interim (k + 1) after) done q t →
    Completed learning invoke caller interim k p s ((step, raw) :: done) q t

/-- How a run ends that has the steps `rest` left: the statuses that are still reported, the outcome
and the event that closes the stream. An exception that leaves a step leaves the run, which has no
outcome then and no further event. -/
inductive Finishes (learning : Learning) (invoke : Invoker σ) (caller : Caller σ)
    (interim : Interim σ) (k : Nat) (p : Progress) (s : Session σ) :
    List Step → List StatusEvent → Except Thrown (Outcome × Event) → Prop
  | success :
    Finishes learning invoke caller interim k p s [] []
      (.ok (⟨.success p.value, p.outputs⟩, .result p.value false))
  | canceled {step : Step} {rest : List Step} :
    caller.canceled s.world = true →
    Finishes learning invoke caller interim k p s (step :: rest) []
      (.ok (⟨.canceled, p.outputs⟩,
        .result (.dict [("error", .str "Workflow cancelled"), ("canceled", .bool true)]) true))
  | failed {step : Step} {rest : List Step} {message : String} {after : Session σ} :
    caller.canceled s.world = false →
    executeStep learning invoke p.outputs p.producers caller step (interim k s) =
      (.error (.failed message), after) →
    Finishes learning invoke caller interim k p s (step :: rest)
      [.started step, .failed step message]
      (.ok (⟨.failed message (some step.id), p.outputs⟩,
        .result (.dict [("error", .str message), ("failedStep", .str step.id)]) false))
  | raised {step : Step} {rest : List Step} {cause : Thrown} {after : Session σ} :
    caller.canceled s.world = false →
    Escapes learning invoke p.outputs caller step (interim k s) cause after →
    Finishes learning invoke caller interim k p s (step :: rest) [.started step] (.error cause)

/-- The two statuses of each completed step. -/
def stages (done : List (Step × Value)) : List StatusEvent :=
  done.flatMap fun entry => [.started entry.1, .completed entry.1]

/-- What completed steps have stored. -/
def stored (done : List (Step × Value)) : Outputs :=
  done.map fun entry => (entry.1.id, Envelope.unwrap entry.2)

variable {learning : Learning} {invoke : Invoker σ} {caller : Caller σ} {interim : Interim σ}

theorem Finishes.outcome_eq {k : Nat} {p : Progress} {s : Session σ} {rest : List Step}
    {tail : List StatusEvent} {outcome : Outcome} {last : Event}
    (finish : Finishes learning invoke caller interim k p s rest tail (.ok (outcome, last))) :
    last = .result outcome.payload outcome.isCanceled ∧ outcome.outputs = p.outputs := by
  cases finish <;> exact ⟨rfl, rfl⟩

/-- A step that halts finishes the run. -/
theorem finishes_of_halted {k : Nat} {p : Progress} {s after : Session σ} {step : Step}
    (rest : List Step) {halt : Halt} (unset : caller.canceled s.world = false)
    (halted : executeStep learning invoke p.outputs p.producers caller step (interim k s) =
      (.error halt, after)) :
    ∃ closing, Finishes learning invoke caller interim k p s (step :: rest)
        (halt.course step p.outputs).statuses closing ∧
      (halt.course step p.outputs).closing = closing.map Prod.fst := by
  cases halt with
  | failed message => exact ⟨_, .failed unset halted, rfl⟩
  | raised cause => exact ⟨_, .raised unset (escapes_of_raised halted), rfl⟩

/-- The outputs grow by one entry for each completed step, in their order. -/
theorem Completed.outputs_eq {k : Nat} {p q : Progress} {s t : Session σ}
    {done : List (Step × Value)}
    (completed : Completed learning invoke caller interim k p s done q t)
    (fresh : (Entries.keys p.outputs ++ done.map (·.1.id)).Nodup) :
    q.outputs = p.outputs ++ stored done := by
  induction completed with
  | none k p s => simp [stored]
  | @next k p q s called after t step raw done _ _ _ _ ih =>
    rw [List.map_cons] at fresh
    rw [ih (Progress.fresh_store _ fresh), Progress.outputs_store _ fresh]
    simp [stored, List.append_assoc]

/-- The value of a run is what its latest completed step stored. -/
theorem Completed.value_eq {k : Nat} {p q : Progress} {s t : Session σ}
    {done : List (Step × Value)}
    (completed : Completed learning invoke caller interim k p s done q t)
    {step : Step} {raw : Value} (last : done.getLast? = some (step, raw)) :
    q.value = Envelope.unwrap raw := by
  induction completed with
  | none k p s => simp at last
  | @next k p q s called after t step raw done _ _ _ tail ih =>
    cases done with
    | nil =>
      cases tail
      simp only [List.getLast?_singleton, Option.some.injEq, Prod.mk.injEq] at last
      rw [← last.2]
      rfl
    | cons entry rest =>
      rw [List.getLast?_cons_cons] at last
      exact ih last

/-- Pulling the remaining steps to the end gives the stages of those that are completed and then
one ending. -/
theorem takeAmid_before (learning : Learning) (invoke : Invoker σ) (caller : Caller σ)
    (interim : Interim σ) (steps : List Step) (k : Nat) (p : Progress) (s : Session σ) :
    ∃ done rest q t tail closing after,
      steps = done.map Prod.fst ++ rest ∧
      Completed learning invoke caller interim k p s done q t ∧
      Finishes learning invoke caller interim (k + 2 * done.length) q t rest tail closing ∧
      Phase.takeAmid (executeStep learning invoke) caller interim (2 * steps.length + 1) k
          (.before steps p) s =
        ((⟨stages done ++ tail, closing.map Prod.fst⟩ : Course).notices, .closed, after) := by
  -- A completed step takes two pulls, so the steps after it start at the event `k + 2`.
  induction steps generalizing k p s with
  | nil => exact ⟨[], [], p, s, [], _, interim k s, rfl, .none k p s, .success, rfl⟩
  | cons step rest ih =>
    rw [Phase.pulls_cons]
    cases stop : caller.canceled s.world with
    | true =>
      exact ⟨[], step :: rest, p, s, [], _, _, rfl, .none k p s, .canceled stop,
        Phase.takeAmid_of_canceled stop _⟩
    | false =>
      rcases result : executeStep learning invoke p.outputs p.producers caller step (interim k s)
        with ⟨answer, after⟩
      cases answer with
      | error halt =>
        obtain ⟨closing, finish, same⟩ := finishes_of_halted rest stop result
        refine ⟨[], step :: rest, p, s, _, closing, halt.afterwards interim (k + 1) after, rfl,
          .none k p s, finish, ?_⟩
        rw [Phase.takeAmid_of_halted stop result (2 * rest.length), Course.notices, same]
        rfl
      | ok value =>
        obtain ⟨raw, called, answers, settled⟩ := executeStep_ok result
        obtain rfl := settle_value settled
        obtain ⟨done, left, q, t, tail, closing, final, split, completed, finish, taken⟩ :=
          ih (k + 2) (p.store step (Envelope.unwrap raw)) (interim (k + 1) after)
        refine ⟨(step, raw) :: done, left, q, t, tail, closing, final, ?_,
          .next stop answers settled completed, ?_, ?_⟩
        · simp [split]
        · rw [show k + 2 * ((step, raw) :: done).length = k + 2 + 2 * done.length by
            simp only [List.length_cons]; omega]
          exact finish
        · rw [Phase.takeAmid_of_completed stop result, taken]
          simp [stages, Course.notices]

/-- A host that pulls a run to its end receives exactly these events and there are no more after
them, the run has this outcome, and completing it at once has the same one. -/
def Observed (engine : Engine σ) (caller : Caller σ) (interim : Interim σ) (raw : Value)
    (s : Session σ) (events : List Event) (outcome : Outcome) (after : Session σ) : Prop :=
  ∃ statuses : List StatusEvent,
    Phase.drainAmid engine.execute caller interim (.submitted (Program.read raw)) s =
      (statuses.map Notice.status ++ [.ended outcome], .closed, after) ∧
    (statuses.map Notice.status ++ [Notice.ended outcome]).mapM Event.ofNotice = .ok events ∧
    (interim = .idle → engine.run raw caller s = (.ok ⟨statuses, outcome⟩, after))

/-- A host that pulls a run to its end receives exactly these events, then this exception and no
more after it, and completing the run at once raises the same one. -/
def Interrupted (engine : Engine σ) (caller : Caller σ) (interim : Interim σ) (raw : Value)
    (s : Session σ) (events : List Event) (cause : Thrown) (after : Session σ) : Prop :=
  ∃ statuses : List StatusEvent,
    Phase.drainAmid engine.execute caller interim (.submitted (Program.read raw)) s =
      (statuses.map Notice.status ++ [.raised cause], .closed, after) ∧
    events = statuses.map Event.status ∧ Event.ofNotice (.raised cause) = .error cause ∧
    (interim = .idle → engine.run raw caller s = (.error cause, after))

/-- A course is observed as soon as it is drained. -/
theorem observed_of_drainAmid {engine : Engine σ} {raw : Value} {s after : Session σ}
    {statuses : List StatusEvent} {outcome : Outcome}
    (drained : Phase.drainAmid engine.execute caller interim (.submitted (Program.read raw)) s =
      ((⟨statuses, .ok outcome⟩ : Course).notices, .closed, after)) :
    Observed engine caller interim raw s
      (statuses.map Event.status ++ [.result outcome.payload outcome.isCanceled])
      outcome after := by
  refine ⟨statuses, drained, Event.mapM_ofNotice ⟨statuses, .ok outcome⟩, ?_⟩
  rintro rfl
  exact complete_ok_iff.2 (Phase.course_of_drainAmid drained)

/-- A run is observed in one way only. -/
theorem Observed.unique {engine : Engine σ} {raw : Value} {s after after' : Session σ}
    {events events' : List Event} {outcome outcome' : Outcome}
    (one : Observed engine caller interim raw s events outcome after)
    (other : Observed engine caller interim raw s events' outcome' after') :
    events' = events ∧ outcome' = outcome ∧ after' = after := by
  obtain ⟨statuses, drained, told, _⟩ := one
  obtain ⟨statuses', drained', told', _⟩ := other
  simp only [drained, Prod.mk.injEq, true_and] at drained'
  obtain ⟨same, ended⟩ := drained'
  rw [same, told'] at told
  have last := List.append_inj_right' same rfl
  simp only [List.cons.injEq, Notice.ended.injEq, and_true] at last
  exact ⟨Except.ok.inj told, last.symm, ended.symm⟩

theorem interrupted_of_drainAmid {engine : Engine σ} {raw : Value} {s after : Session σ}
    {statuses : List StatusEvent} {cause : Thrown}
    (drained : Phase.drainAmid engine.execute caller interim (.submitted (Program.read raw)) s =
      ((⟨statuses, .error cause⟩ : Course).notices, .closed, after)) :
    Interrupted engine caller interim raw s (statuses.map Event.status) cause after := by
  refine ⟨statuses, drained, rfl, rfl, ?_⟩
  rintro rfl
  rw [Engine.run, complete_error_iff, Phase.course_of_drainAmid drained]
  exact ⟨rfl, rfl⟩

/-- A run that has an outcome is left by no exception. -/
theorem Observed.not_interrupted {engine : Engine σ} {raw : Value} {s after after' : Session σ}
    {events events' : List Event} {outcome : Outcome} {cause : Thrown}
    (observed : Observed engine caller interim raw s events outcome after) :
    ¬Interrupted engine caller interim raw s events' cause after' := by
  rintro ⟨statuses', raised, _⟩
  obtain ⟨statuses, drained, _⟩ := observed
  simp only [drained, Prod.mk.injEq, true_and] at raised
  simpa using List.append_inj_right' raised.1 rfl

/-- A host that pulls a run to its end receives the events of this course. -/
def Followed (engine : Engine σ) (caller : Caller σ) (interim : Interim σ) (raw : Value)
    (s : Session σ) (c : Course) (after : Session σ) : Prop :=
  match c.closing with
  | .ok outcome =>
    Observed engine caller interim raw s
      (c.statuses.map Event.status ++ [.result outcome.payload outcome.isCanceled]) outcome after
  | .error cause =>
    Interrupted engine caller interim raw s (c.statuses.map Event.status) cause after

theorem followed_of_drainAmid {engine : Engine σ} {raw : Value} {s after : Session σ} {c : Course}
    (drained : Phase.drainAmid engine.execute caller interim (.submitted (Program.read raw)) s =
      (c.notices, .closed, after)) : Followed engine caller interim raw s c after := by
  obtain ⟨statuses, closing⟩ := c
  cases closing with
  | ok outcome => exact observed_of_drainAmid drained
  | error cause => exact interrupted_of_drainAmid drained

/-- Only a course with an outcome has a report. -/
theorem length_of_report (c : Course) {n : Nat}
    (counted : (c.report.map fun r => r.statuses.length) = .ok n) :
    c.statuses.length = n ∧ ∃ outcome, c.closing = .ok outcome := by
  obtain ⟨statuses, closing⟩ := c
  cases closing with
  | ok outcome => exact ⟨Except.ok.inj counted, outcome, rfl⟩
  | error cause => cases counted

/-- A host that drains the run receives the payload of its outcome. -/
theorem Observed.runProgram {engine : Engine σ} {raw : Value} {s after : Session σ}
    {events : List Event} {outcome : Outcome}
    (observed : Observed engine caller .idle raw s events outcome after) :
    engine.runProgram raw caller s = (.ok outcome.payload, after) := by
  obtain ⟨statuses, _, _, ran⟩ := observed
  simp only [Engine.runProgram, ran rfl]

/-- A run of a refused program ends before any step. -/
theorem drainAmid_of_refused (engine : Engine σ) (caller : Caller σ) (interim : Interim σ)
    {raw : Value} (s : Session σ) {refusal : Program.ReadError}
    (refused : Program.read raw = .error refusal) (proper : ∀ cause, refusal ≠ .raised cause) :
    Phase.drainAmid engine.execute caller interim (.submitted (Program.read raw)) s =
      ((⟨[], .ok ⟨.failed refusal.message none, []⟩⟩ : Course).notices, .closed,
        interim 0 (s.note (.rejected refusal.message))) := by
  rw [refused]
  cases refusal with
  | noSteps => rfl
  | invalid problems => rfl
  | raised cause => exact absurd rfl (proper cause)

/-- A run of an accepted program completes some first steps, in their order, and then ends once, by
success after the last step, by cancellation before a step, by the failure of a step, or by an
exception that leaves a step and the run. Its outputs are what the completed steps stored. A refused
program ends at once. This holds for all tools and whatever happens between the pulls. -/
theorem observed_course (engine : Engine σ) (caller : Caller σ) (interim : Interim σ)
    (raw : Value) (s : Session σ) :
    (∀ program, Program.read raw = .ok program →
      ∃ done rest p t tail closing after,
        program.steps = done.map Prod.fst ++ rest ∧
        Completed engine.learning engine.invoke caller interim 0 .initial
          (s.note (.running program.steps.length)) done p t ∧
        Finishes engine.learning engine.invoke caller interim (2 * done.length) p t rest tail
          closing ∧
        (rest = [] → ∃ step answer, done.getLast? = some (step, answer) ∧
          p.value = Envelope.unwrap answer) ∧
        (∀ outcome last, closing = .ok (outcome, last) →
          outcome.outputs = stored done ∧
          Observed engine caller interim raw s ((stages done ++ tail).map Event.status ++ [last])
            outcome after) ∧
        ∀ cause, closing = .error cause →
          Interrupted engine caller interim raw s ((stages done ++ tail).map Event.status) cause
            after) ∧
    (∀ refusal, Program.read raw = .error refusal → (∀ cause, refusal ≠ .raised cause) →
      Observed engine caller interim raw s
        [.result (.dict [("error", .str refusal.message)]) false]
        ⟨.failed refusal.message none, []⟩ (interim 0 (s.note (.rejected refusal.message)))) := by
  constructor
  · intro program accepted
    obtain ⟨nonempty, distinct⟩ := Program.read_wellFormed accepted
    obtain ⟨done, rest, p, t, tail, closing, after, split, completed, finish, taken⟩ :=
      takeAmid_before engine.learning engine.invoke caller interim program.steps 0 .initial
        (s.note (.running program.steps.length))
    have drained : Phase.drainAmid engine.execute caller interim (.submitted (Program.read raw)) s =
        ((⟨stages done ++ tail, closing.map Prod.fst⟩ : Course).notices, .closed, after) := by
      rw [accepted, ← taken]
      rfl
    have ids : (done.map (·.1.id)).Nodup := by
      rw [split, List.map_append, List.map_map] at distinct
      exact (List.nodup_append.1 distinct).1
    have outputs : p.outputs = stored done :=
      completed.outputs_eq (by simpa [Progress.initial, Entries.keys] using ids)
    rw [Nat.zero_add] at finish
    refine ⟨done, rest, p, t, tail, closing, after, split, completed, finish, ?_, ?_, ?_⟩
    · intro all
      rcases last : done.getLast? with _ | ⟨step, answer⟩
      · simp [List.getLast?_eq_none_iff.1 last, all] at split
        exact absurd split nonempty
      · exact ⟨step, answer, rfl, completed.value_eq last⟩
    · rintro outcome last rfl
      obtain ⟨rfl, stored⟩ := finish.outcome_eq
      exact ⟨stored.trans outputs, observed_of_drainAmid drained⟩
    · rintro cause rfl
      exact interrupted_of_drainAmid drained
  · intro refusal refused proper
    exact observed_of_drainAmid (drainAmid_of_refused engine caller interim s refused proper)

/-- Two steps call a tool that counts its calls in its world and answers with the count; the second
one is given what the first one stored. -/
theorem observed_course_counted :
    let raw : Value := .list [.dict [("id", .str "a"), ("tool", .str "t")],
      .dict [("id", .str "b"), ("tool", .str "t"),
        ("args", .dict [("x", .str "\x7b\x7ba.n\x7d\x7d")])]]
    let first : Step := ⟨"a", "t", [], none, none⟩
    let second : Step := ⟨"b", "t", [("x", .str "\x7b\x7ba.n\x7d\x7d")], none, none⟩
    let counted (n : Int) : Value := .dict [("n", .int n)]
    let engine : Engine Nat :=
      ⟨.standard, [("t", .single ⟨"t", "", []⟩ fun _ _ w => (.ok (counted (w + 1)), w + 1))],
        ⟨0, 8⟩⟩
    let caller : Caller Nat := ⟨.null, fun _ => false⟩
    let s : Session Nat := .opening 4 []
    Program.read raw = .ok ⟨[first, second]⟩ ∧
      ∃ done rest after,
        [first, second] = done.map Prod.fst ++ rest ∧
        stored done = [("a", counted 5), ("b", counted 6)] ∧
        Observed engine caller .idle raw s
          [.status (.started first), .status (.completed first), .status (.started second),
            .status (.completed second), .result (counted 6) false]
          ⟨.success (counted 6), stored done⟩ after ∧
        after.world = 6 ∧
        after.calls = [("t", .dict []), ("t", .dict [("x", .int 5)])] ∧
        after.learned = [("t", .object [("n", .leaf "number")])] := by
  intro raw first second counted engine caller s
  have accepted : Program.read raw = .ok ⟨[first, second]⟩ := rfl
  obtain ⟨c, after, drained, same, left⟩ : ∃ (c : Course) (after : Session Nat),
      Phase.drainAmid engine.execute caller .idle (.submitted (Program.read raw)) s =
        (c.notices, .closed, after) ∧
      c = ⟨stages [(first, .null), (second, .null)],
        .ok ⟨.success (counted 6), [("a", counted 5), ("b", counted 6)]⟩⟩ ∧
      after.world = 6 ∧
      after.calls = [("t", .dict []), ("t", .dict [("x", .int 5)])] ∧
      after.learned = [("t", .object [("n", .leaf "number")])] :=
    ⟨_, _, rfl, rfl, rfl, rfl, rfl⟩
  subst same
  have computed := observed_of_drainAmid drained
  obtain ⟨done, rest, _, _, tail, closing, _, split, _, _, _, observed, interrupted⟩ :=
    (observed_course engine caller .idle raw s).1 _ accepted
  cases closing with
  | error cause =>
    exact absurd (interrupted cause rfl) computed.not_interrupted
  | ok ending =>
    obtain ⟨outcome, last⟩ := ending
    obtain ⟨outputs, observed⟩ := observed outcome last rfl
    obtain ⟨events, rfl, rfl⟩ := computed.unique observed
    exact ⟨accepted, done, rest, _, split, outputs.symm, outputs ▸ computed, left⟩

/-- An exception of the first step comes after the event that it has been started. -/
theorem interrupted_of_escapes {engine : Engine σ} {raw : Value} {s called : Session σ}
    {step : Step} {rest : List Step} {cause : Thrown}
    (accepted : Program.read raw = .ok ⟨step :: rest⟩) (unset : caller.canceled s.world = false)
    (escapes : Escapes engine.learning engine.invoke [] caller step
      (interim 0 (s.note (.running (step :: rest).length))) cause called) :
    Interrupted engine caller interim raw s [.status (.started step)] cause (interim 1 called) := by
  have unset : caller.canceled (s.note (.running (step :: rest).length)).world = false := unset
  have halted : engine.execute Progress.initial.outputs Progress.initial.producers caller step
      (interim 0 (s.note (.running (step :: rest).length))) = (.error (.raised cause), called) :=
    raised_of_escapes escapes
  have first : Phase.takeAmid engine.execute caller interim (2 * (step :: rest).length + 1) 0
      (.before (step :: rest) .initial) (s.note (.running (step :: rest).length)) =
        ((⟨[.started step], .error cause⟩ : Course).notices, .closed, interim 1 called) := by
    rw [Phase.pulls_cons]
    exact Phase.takeAmid_of_halted unset halted _
  have drained : Phase.drainAmid engine.execute caller interim (.submitted (Program.read raw)) s =
      ((⟨[.started step], .error cause⟩ : Course).notices, .closed, interim 1 called) := by
    rw [accepted]
    exact first
  exact interrupted_of_drainAmid drained

/-- A tool answers with an error that JSON cannot stand for, an object with a fixed sequence as a
key, and another one with a text of more brackets than there is room for. The step has been started
and its tool has been called, and then an exception leaves the run, which has no outcome. -/
theorem untaken_answer_leaves_run :
    let key : Raised := ⟨"TypeError", "keys must be str, int, float, bool or None, not tuple"⟩
    let unwritable : Value := .dict [("error", .keyed [.other "tuple" "('x', 'y')"] [.int 1])]
    let brackets : Value := .str (String.ofList (List.replicate 5000 '['))
    let engine : Engine Nat :=
      ⟨.standard, [("t", .single ⟨"t", "", []⟩ fun _ _ w => (.ok unwritable, w + 1)),
        ("u", .single ⟨"u", "", []⟩ fun _ _ w => (.ok brackets, w + 1))], ⟨0, 1000⟩⟩
    let caller : Caller Nat := ⟨.null, fun _ => false⟩
    let s : Session Nat := .opening 4 []
    let raw (tool : String) : Value := .list [.dict [("id", .str "a"), ("tool", .str tool)]]
    let step (tool : String) : Step := ⟨"a", tool, [], none, none⟩
    let leaves (tool : String) (cause : Raised) : Prop :=
      (∃ after, Interrupted engine caller .idle (raw tool) s [.status (.started (step tool))]
          (.told cause) after ∧
        engine.run (raw tool) caller s = (.error (.told cause), after) ∧ after.world = 5) ∧
      ¬∃ events outcome after, Observed engine caller .idle (raw tool) s events outcome after
    Program.read (raw "t") = .ok ⟨[step "t"]⟩ ∧ leaves "t" key ∧
      Program.read (raw "u") = .ok ⟨[step "u"]⟩ ∧ leaves "u" (Json.tooDeep "array") := by
  intro key unwritable brackets engine caller s raw step leaves
  have leaving {tool : String} {cause : Raised} {called : Session Nat}
      (accepted : Program.read (raw tool) = .ok ⟨[step tool]⟩)
      (escapes : Escapes engine.learning engine.invoke [] caller (step tool) (s.note (.running 1))
        (.told cause) called) (world : called.world = 5) : leaves tool cause := by
    have interrupted : Interrupted engine caller .idle (raw tool) s
        [.status (.started (step tool))] (.told cause) called :=
      interrupted_of_escapes accepted rfl escapes
    refine ⟨⟨called, interrupted, ?_, world⟩, ?_⟩
    · obtain ⟨_, _, _, _, ran⟩ := interrupted
      exact ran rfl
    · rintro ⟨_, _, _, observed⟩
      exact observed.not_interrupted interrupted
  have unwritten : Envelope.fault? engine.learning.room unwritable = some key := rfl
  have deep : Envelope.fault? engine.learning.room brackets = some (Json.tooDeep "array") :=
    Envelope.fault?_brackets (by decide)
  exact ⟨rfl, leaving rfl (.faulty ⟨[], rfl, rfl⟩ unwritten) rfl,
    rfl, leaving rfl (.faulty ⟨[], rfl, rfl⟩ deep) rfl⟩

end Workflow.Run
