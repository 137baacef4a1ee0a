import Workflow.Proofs.Engine.Nesting
import Workflow.Proofs.Host.Payload
import Workflow.Proofs.Run.Cancellation

/-!
Which tools a run calls. If the programs that steps run are written out, then the submitted program
alone says which tools are called and in which order: what tools answer and when the signal is set
can only end the calls early, since every failure and every cancellation ends all runs around it. It
is enough that no tool raises an exception that nothing can be told about, which would let the run
around it go on.
-/
namespace Workflow

variable {σ : Type}

/-- The names of the tools that are called in a trace. -/
def Trace.names (trace : Trace σ) : List String :=
  trace.filterMap fun moment => moment.1.calledTool?

theorem Trace.names_append (trace later : Trace σ) :
    names (trace ++ later) = names trace ++ names later :=
  List.filterMap_append

theorem Trace.names_calls (trace : Trace σ) : names trace.calls = names trace := by
  rw [names, names, calls, List.filterMap_filter]
  refine List.filterMap_congr fun moment _ => ?_
  cases called : moment.1.calledTool? <;> simp [Entry.isCall, called]

theorem Trace.names_of_no_calls {trace : Trace σ} (silent : trace.calls = []) :
    trace.names = [] := by
  rw [← names_calls, silent]
  rfl

/-- The name of the tool that is called. -/
def Happening.tool? : Happening σ → Option String
  | emitted .. => none
  | called entry _ => entry.calledTool?

theorem Happening.filterMap_ofCall (trace : Trace σ) :
    (trace.calls.map ofCall).filterMap tool? = trace.names := by
  rw [← Trace.names_calls, List.filterMap_map]
  rfl

namespace Engine
open Execution

/-- No tool raises an exception that has neither a text nor a class name, or one whose text comes to
such an exception. -/
def Named (engine : Engine σ) (caller : Caller σ) : Prop :=
  ∀ name args d world thrown, engine.delegation? name args = some d →
    (d.action d.given caller.context world).1 = .error thrown → ¬thrown.Nameless

variable {engine : Engine σ} {caller : Caller σ} {step : Step}

/-- The names of the calls in a trace are those that the journal has since it began. -/
theorem Works.names_since {context : Value} {s t : Session σ} {trace : Trace σ}
    (work : engine.Works context s trace t) :
    (s.since t).filterMap Entry.calledTool? = trace.names := by
  rw [work.since_eq, List.filterMap_map]
  rfl

theorem Works.names_eq {context : Value} {s t : Session σ} {trace trace' : Trace σ}
    (work : engine.Works context s trace t) (work' : engine.Works context s trace' t) :
    trace.names = trace'.names := by
  rw [← work.names_since, work'.names_since]

theorem executeStep_error_ne_empty (named : engine.Named caller) (depth : Nat) (outputs : Outputs)
    (producers : List (String × String)) (step : Step) (s : Session σ) :
    (executeStep engine.learning (engine.invokeAt depth) outputs producers caller step s).1 ≠
      .error (.failed "") := by
  intro failed
  obtain ⟨args, called, raised⟩ := executeStep_error_empty (Prod.ext failed rfl)
  obtain ⟨d, world, found, threw⟩ | ⟨_, _, _, cause, ⟨d, world, found, threw⟩, nameless⟩ :=
    invokeAt_nameless .told raised
  · exact named _ _ d world _ found threw .told
  · exact named _ _ d world _ found threw (.untold nameless)

/-! ### What one step calls -/

/-- Some calls are first ones of those that the steps list, and all of them in case of success. -/
def Lists (engine : Engine σ) (steps : List Step) (trace : Trace σ) (success : Prop) : Prop :=
  trace.names <+: engine.flattening steps ∧ (success → trace.names = engine.flattening steps)

theorem Lists.of_silent {steps : List Step} {trace : Trace σ} {success : Prop}
    (silent : trace.calls = []) (failed : ¬success) : engine.Lists steps trace success := by
  rw [Lists, Trace.names_of_no_calls silent]
  exact ⟨List.nil_prefix, fun succeeded => absurd succeeded failed⟩

/-- Executing a step calls what the step lists. -/
def CallsListed (engine : Engine σ) (caller : Caller σ) (invoke : Invoker σ) (step : Step) : Prop :=
  ∀ outputs producers s, ∃ trace,
    engine.Works caller.context s trace
      (executeStep engine.learning invoke outputs producers caller step s).2 ∧
    engine.Lists [step] trace
      (∃ value, (executeStep engine.learning invoke outputs producers caller step s).1 = .ok value)

/-- A run whose steps call what they list does so itself. -/
theorem steps_callsListed {invoke : Invoker σ} (left : List Step)
    (listed : ∀ step ∈ left, engine.CallsListed caller invoke step) (p : Progress)
    (s : Session σ) :
    ∃ trace,
      engine.Works caller.context s trace
        (Run.steps (executeStep engine.learning invoke) caller left p s).2 ∧
      engine.Lists left trace (∃ value outputs,
        (Run.steps (executeStep engine.learning invoke) caller left p s).1.closing =
          .ok ⟨.success value, outputs⟩) := by
  induction left generalizing p s with
  | nil => exact ⟨[], .idle s, List.nil_prefix, fun _ => rfl⟩
  | cons step rest ih =>
    cases stop : caller.canceled s.world with
    | true =>
      rw [Run.steps_of_canceled rest stop]
      exact ⟨_, .note s rfl, .of_silent rfl (by simp)⟩
    | false =>
      obtain ⟨trace, work, first, all⟩ := listed step (by simp) p.outputs p.producers s
      have split := flattening_cons_append engine step rest
      rcases result : executeStep engine.learning invoke p.outputs p.producers caller step s
        with ⟨answer, after⟩
      rw [result] at work all
      cases answer with
      | error halt =>
        rw [Run.steps_of_halted rest stop result]
        refine ⟨trace, work, ?_, by cases halt <;> simp [Halt.course]⟩
        rw [split]
        exact first.trans (List.prefix_append ..)
      | ok value =>
        obtain ⟨later, ran, others, whole⟩ :=
          ih (fun other member => listed other (.tail step member)) (p.store step value) after
        rw [Run.steps_of_completed rest stop result]
        refine ⟨trace ++ later, work.trans ran, ?_, fun success => ?_⟩
        · rw [split, Trace.names_append, all ⟨value, rfl⟩, List.prefix_append_right_inj]
          exact others
        · rw [split, Trace.names_append, all ⟨value, rfl⟩, whole success]

/-- A failed step ends its run, so a text that tells nothing comes from one of the steps. -/
theorem steps_error_ne_empty (named : engine.Named caller) (depth : Nat) (left : List Step)
    (p : Progress) (s : Session σ) {outcome : Outcome}
    (closed : (Run.steps (executeStep engine.learning (engine.invokeAt depth)) caller left p
      s).1.closing = .ok outcome) : outcome.error? ≠ some "" := by
  intro empty
  obtain ⟨id, failed⟩ := Outcome.ending_of_empty empty
  obtain ⟨ending, stored⟩ := outcome
  subst failed
  obtain ⟨step, _, _, outputs, producers, t, failed⟩ := Run.exists_failing_step closed
  exact executeStep_error_ne_empty named depth outputs producers step t failed

/-- Taking in what a listed invocation answers calls nothing more. -/
theorem callsListed_of_invocations {invoke : Invoker σ}
    (invoked : ∀ outputs args s, Template.resolveEntries outputs step.args = .ok args →
      ∃ trace, engine.Works caller.context s trace (invoke step.tool (.dict args) caller s).2 ∧
        engine.Lists [step] trace (∃ raw value,
          (invoke step.tool (.dict args) caller s).1 = .ok raw ∧ Envelope.read raw = .ok value)) :
    engine.CallsListed caller invoke step := by
  intro outputs producers s
  cases resolved : Template.resolveEntries outputs step.args with
  | error e =>
    simp only [executeStep, resolved, fail]
    exact ⟨_, .note s rfl, .of_silent rfl (by simp)⟩
  | ok args =>
    rw [executeStep_of_resolved resolved]
    obtain ⟨trace, work, first, all⟩ :=
      invoked outputs args (s.note (.invoking step.tool step.id)) resolved
    obtain ⟨last, concluded, silent⟩ := conclude_works engine caller.context step
      (invoke step.tool (.dict args) caller (s.note (.invoking step.tool step.id))).1
      (invoke step.tool (.dict args) caller (s.note (.invoking step.tool step.id))).2
    have whole : Trace.names ((.invoking step.tool step.id, s.world) :: (trace ++ last)) =
        trace.names := by
      rw [← List.singleton_append, Trace.names_append, Trace.names_append,
        Trace.names_of_no_calls silent, List.append_nil]
      rfl
    refine ⟨_, .notes rfl (work.trans concluded), whole ▸ first, ?_⟩
    rintro ⟨value, success⟩
    rw [whole]
    apply all
    cases answer : (invoke step.tool (.dict args) caller
        (s.note (.invoking step.tool step.id))).1 with
    | error thrown =>
      rw [answer] at success
      exact absurd success (failWith_ne_ok step thrown _ value)
    | ok raw =>
      rw [answer] at success
      obtain ⟨_, read, _⟩ := (settle_ok_iff ..).1 (Prod.ext success rfl)
      exact ⟨raw, value, rfl, read⟩

/-- The run of a program that is written out calls what this lists. -/
theorem nestedBy_lists (named : engine.Named caller) {depth : Nat} {args : List (String × Value)}
    (listed : ∀ inner ∈ step.inner, engine.CallsListed caller (engine.invokeAt depth) inner)
    (written : Value.dict args = (Value.dict step.args).listed) (s : Session σ) :
    ∃ trace,
      engine.Works caller.context s trace
        (engine.nestedBy (engine.invokeAt depth) (Program.read (.dict args)) caller s).2 ∧
      engine.Lists step.inner trace (∃ report value,
        (engine.nestedBy (engine.invokeAt depth) (Program.read (.dict args)) caller s).1 =
            .ok report ∧
          Envelope.read report.outcome.payload = .ok value) := by
  rcases reading : Program.read (.dict args) with refusal | program
  · cases refusal with
    | raised cause =>
      refine ⟨[], .idle s, .of_silent rfl ?_⟩
      rintro ⟨report, value, ⟨⟩, _⟩
    | _ =>
      refine ⟨_, .note s rfl, .of_silent rfl ?_⟩
      rintro ⟨report, value, ⟨⟩, read⟩
      rw [Outcome.read_payload_of_error rfl (Program.ReadError.message_ne_empty (by simp))] at read
      cases read
  · rw [Step.inner_of_read (written ▸ reading)] at listed ⊢
    obtain ⟨trace, work, first, all⟩ := steps_callsListed program.steps listed .initial
      (s.note (.running program.steps.length))
    refine ⟨_, .notes rfl work, first, ?_⟩
    rintro ⟨report, value, ran, read⟩
    have closed := Run.closing_of_complete ran
    have told := steps_error_ne_empty named depth program.steps .initial _ closed
    obtain ⟨value, success⟩ := Outcome.success_of_read told read
    exact all ⟨value, report.outcome.outputs, closed.trans (by rw [← success])⟩

theorem invokeWith_lists (formed : engine.WellFormed) {nested : Nested σ}
    {args : List (String × Value)}
    (inner : engine.runsProgram step.tool = true → ∀ s, ∃ trace,
      engine.Works caller.context s trace (nested (Program.read (.dict args)) caller s).2 ∧
      engine.Lists step.inner trace (∃ report value,
        (nested (Program.read (.dict args)) caller s).1 = .ok report ∧
          Envelope.read report.outcome.payload = .ok value)) (s : Session σ) :
    ∃ trace,
      engine.Works caller.context s trace
        (engine.invokeWith nested step.tool (.dict args) caller s).2 ∧
      engine.Lists [step] trace (∃ raw value,
        (engine.invokeWith nested step.tool (.dict args) caller s).1 = .ok raw ∧
          Envelope.read raw = .ok value) := by
  have lists := flattening_singleton engine step
  cases found : engine.delegation? step.tool (.dict args) with
  | some d =>
    have called : engine.flattening [step] = [d.tool] := by
      rw [lists, formed.tool_of_delegation? found]
      cases route : engine.route? step.tool with
      | none => rfl
      | some target => cases target <;> simp [delegation?, route] at found ⊢
    rw [invokeWith_of_delegation nested caller s found]
    refine ⟨_, .calls found (.idle _), ?_⟩
    rw [Lists, called]
    exact ⟨List.prefix_rfl, fun _ => rfl⟩
  | none =>
    obtain route | route | route := route?_of_not_delegated found
    · simp only [invokeWith, route]
      refine ⟨_, .note s rfl, .of_silent rfl ?_⟩
      rintro ⟨raw, value, ⟨⟩, read⟩
      rw [read_notFound] at read
      cases read
    · simp only [invokeWith, route]
      rw [route] at lists
      refine ⟨[], .idle s, ?_⟩
      rw [Lists, lists]
      exact ⟨List.nil_prefix, fun _ => rfl⟩
    · rw [invokeWith_of_runProgram nested _ caller s route]
      obtain ⟨trace, work, first, all⟩ := inner (runsProgram_of_route? route) s
      rw [route] at lists
      refine ⟨trace, work, ?_⟩
      rw [Lists, lists]
      refine ⟨first, ?_⟩
      rintro ⟨raw, value, answered, read⟩
      apply all
      cases ran : (nested (Program.read (.dict args)) caller s).1 with
      | error raised =>
        rw [ran] at answered
        cases answered
      | ok report =>
        rw [ran] at answered
        cases answered
        exact ⟨report, value, rfl, read⟩

/-- A literal step calls what it lists, however deep runs may nest. -/
theorem invokeAt_callsListed (formed : engine.WellFormed) (named : engine.Named caller)
    (depth : Nat) (step : Step) (literal : engine.Literal step) :
    engine.CallsListed caller (engine.invokeAt depth) step := by
  induction depth generalizing step with
  | zero =>
    apply callsListed_of_invocations
    intro outputs args s resolved
    apply invokeWith_lists formed
    intro _ t
    exact ⟨[], .idle t, .of_silent rfl (by simp [tooDeep])⟩
  | succ depth ih =>
    apply callsListed_of_invocations
    intro outputs args s resolved
    apply invokeWith_lists formed
    intro runs t
    apply nestedBy_lists named
    · intro inner member
      exact ih inner (literal.of_mem_inner runs member)
    · exact literal.read_eq runs resolved

end Engine

/-! ### What a stream calls -/

namespace Phase

variable {execute execute' : Executor σ} {caller : Caller σ} {interim : Interim σ}

theorem startNext_pending_subset (caller : Caller σ) (steps : List Step) (p : Progress)
    (s : Session σ) : (startNext caller steps p s).2.1.pending ⊆ steps := by
  cases steps with
  | nil => exact List.Subset.refl []
  | cons step rest =>
    unfold startNext
    dsimp only
    split
    · exact List.nil_subset _
    · exact List.Subset.refl _

/-- No pull adds steps, however they are executed. -/
theorem pull_pending_subset (execute : Executor σ) (caller : Caller σ) (phase : Phase)
    (s : Session σ) : (pull execute caller phase s).2.1.pending ⊆ phase.pending := by
  match phase with
  | .submitted (.error (.raised cause)) => exact List.nil_subset _
  | .submitted (.error .noSteps) => exact List.nil_subset _
  | .submitted (.error (.invalid problems)) => exact List.nil_subset _
  | .submitted (.ok program) => exact startNext_pending_subset ..
  | .before steps p => exact startNext_pending_subset ..
  | .started step rest p =>
    unfold pull
    dsimp only
    split
    next halt _ _ => cases halt <;> exact List.nil_subset _
    · exact List.subset_cons_self step rest
  | .failed step message p => exact List.nil_subset _
  | .closed => exact List.nil_subset _

/-- Executors that agree on the pending steps of a stream give the same pulls. -/
theorem takeAmid_congr (n k : Nat) (phase : Phase) (s : Session σ)
    (same : ∀ step ∈ phase.pending, ∀ outputs producers t,
      execute outputs producers caller step t = execute' outputs producers caller step t) :
    takeAmid execute caller interim n k phase s = takeAmid execute' caller interim n k phase s := by
  induction n generalizing k phase s with
  | zero => rfl
  | succ n ih =>
    have pulled : pull execute caller phase s = pull execute' caller phase s := by
      match phase with
      | .submitted (.error (.raised cause)) => rfl
      | .submitted (.error .noSteps) => rfl
      | .submitted (.error (.invalid problems)) => rfl
      | .submitted (.ok program) => rfl
      | .before steps p => rfl
      | .started step rest p => rw [pull, pull, same step (by simp [pending])]
      | .failed step message p => rfl
      | .closed => rfl
    have inside := pull_pending_subset execute' caller phase s
    rw [takeAmid, takeAmid, pulled]
    rcases result : pull execute' caller phase s with ⟨notice?, next, after⟩
    rw [result] at inside
    cases notice? with
    | none => rfl
    | some notice =>
      dsimp only
      rw [ih (k + 1) next (interim k after) fun step member => same step (inside member)]

end Phase

namespace Run
open Execution Engine

variable {engine : Engine σ} {caller : Caller σ} {interim : Interim σ}

/-- A stream calls first ones of the tools that its pending steps list. -/
theorem tools_prefix_of_timeline {k : Nat} {phase : Phase} {s : Session σ}
    {timeline : List (Happening σ)} (happens : Timeline engine caller interim k phase s timeline)
    (listed : ∀ step ∈ phase.pending, engine.CallsListed caller engine.invoke step) :
    timeline.filterMap Happening.tool? <+: engine.flattening phase.pending := by
  induction happens with
  | closed k s => exact List.nil_prefix
  | @pulled k phase next s after notice trace later pulled work _ ih =>
    have turn := turn_of_pull pulled
    have rest := ih fun step member => listed step (turn.pending_subset member)
    have tools : (trace.calls.map Happening.ofCall ++ .emitted notice after.world ::
        later).filterMap Happening.tool? = trace.names ++ later.filterMap Happening.tool? := by
      rw [List.filterMap_append, Happening.filterMap_ofCall]
      rfl
    rw [tools]
    cases turn with
    | ends _ _ silent =>
      obtain ⟨_, trace', work', none⟩ := silent
      rw [work.names_eq work', Trace.names_of_no_calls none, List.nil_append,
        List.prefix_nil.1 rest]
      exact List.nil_prefix
    | starts pending _ _ silent =>
      obtain ⟨_, trace', work', none⟩ := silent
      rw [work.names_eq work', Trace.names_of_no_calls none, List.nil_append, pending]
      exact rest
    | @halts step left p halt after halted =>
      obtain ⟨trace', work', first, _⟩ := listed step (by simp [Phase.pending]) p.outputs
        p.producers s
      rw [← Engine.execute, halted] at work'
      have silent : (halt.phase step p).pending = [] := by cases halt <;> rfl
      rw [silent] at rest
      rw [work.names_eq work', List.prefix_nil.1 rest, List.append_nil, Phase.pending,
        flattening_cons_append]
      exact first.trans (List.prefix_append ..)
    | @completes step left p value after completed =>
      obtain ⟨trace', work', _, all⟩ := listed step (by simp [Phase.pending]) p.outputs
        p.producers s
      rw [← Engine.execute, completed] at work' all
      rw [work.names_eq work', all ⟨value, rfl⟩, Phase.pending,
        flattening_cons_append engine step left, List.prefix_append_right_inj]
      exact rest

/-- Where the programs that steps run are written out, a run calls first ones of the tools that the
submitted program lists, whatever tools answer and whenever the signal is set. So it ends, or is
left by an exception, after at most as many calls as there are steps at all depths, and a further
allowance for nesting makes no difference to it. -/
theorem calls_flattened (engine : Engine σ) (caller : Caller σ) (interim : Interim σ) (raw : Value)
    (s : Session σ) (program : Program) (formed : engine.WellFormed) (named : engine.Named caller)
    (accepted : Program.read raw = .ok program)
    (literal : ∀ step ∈ program.steps, engine.Literal step) :
    ((∃ events outcome after, Observed engine caller interim raw s events outcome after) ∨
      ∃ events cause after, Interrupted engine caller interim raw s events cause after ∧
        LeavesStep engine caller raw cause) ∧
    (∃ timeline,
      Timeline engine caller interim 0 (.submitted (Program.read raw)) s timeline ∧
      timeline.filterMap Happening.notice? = (Phase.drainAmid engine.execute caller interim
        (.submitted (Program.read raw)) s).1) ∧
    (∀ timeline,
      Timeline engine caller interim 0 (.submitted (Program.read raw)) s timeline →
      let tools := timeline.filterMap Happening.tool?
      tools <+: engine.flattening program.steps ∧
      tools.length ≤ (engine.allSteps program.steps).length ∧
      ∀ tool ∈ tools, ∃ step ∈ engine.allSteps program.steps, step.tool = tool) ∧
    (s.since (engine.run raw caller s).2).filterMap Entry.calledTool? <+:
      engine.flattening program.steps ∧
    ∃ depth, ∀ limit, depth ≤ limit →
      Phase.drainAmid (executeStep engine.learning (engine.invokeAt limit)) caller interim
          (.submitted (Program.read raw)) s =
        Phase.drainAmid (executeStep engine.learning (engine.invokeAt depth)) caller interim
          (.submitted (Program.read raw)) s := by
  have pending : (Phase.submitted (Program.read raw)).pending = program.steps := by
    rw [accepted]
    rfl
  have listed : ∀ step ∈ program.steps, engine.CallsListed caller engine.invoke step :=
    fun step member => invokeAt_callsListed formed named engine.limits.runs step
      (literal step member)
  refine ⟨?_, ?_, fun timeline happens => ?_, ?_, ?_⟩
  · exact observed_or_interrupted engine caller interim raw s (by simp [Decided, accepted])
  · obtain ⟨timeline, happens, notices, _⟩ := exists_timeline engine caller interim 0 s
      (Nat.le_refl (Phase.submitted (Program.read raw)).bound) (List.Subset.refl _)
    exact ⟨timeline, happens, notices⟩
  · have first := tools_prefix_of_timeline happens (pending ▸ listed)
    rw [pending] at first
    refine ⟨first, first.length_le.trans (flattening_length_le ..), fun tool member => ?_⟩
    exact exists_step_of_mem_flattening (first.subset member)
  · obtain ⟨trace, work, first, _⟩ := steps_callsListed program.steps listed .initial
      (s.note (.running program.steps.length))
    have whole := (Works.notes rfl work).names_since
    simp only [Engine.run, accepted, complete, course]
    rw [← Engine.execute] at whole
    rw [whole]
    exact first
  · refine ⟨(Value.list (program.steps.map fun step => .dict step.args)).height,
      fun limit enough => ?_⟩
    apply Phase.takeAmid_congr
    intro step member outputs producers t
    rw [pending] at member
    have held : Value.dict step.args ∈ program.steps.map fun step => .dict step.args :=
      List.mem_map.2 ⟨step, member, rfl⟩
    have lower := (Value.Inside.of_item held).2
    exact executeStep_of_nestsWithin (literal step member)
      (nestsWithin_of_height_le engine (Nat.le_refl _)) (by omega) (by omega) ..

/-- A step that runs a program of one step, and then this step once more. -/
theorem calls_flattened_nested :
    let engine : Engine Unit := ⟨.standard, ownRoutes .standard ++
      [("t", .single ⟨"t", "", noParameters⟩ fun _ _ w => (.ok (.int 1), w))], ⟨8, 8⟩⟩
    let caller : Caller Unit := ⟨.null, fun _ => false⟩
    let s : Session Unit := .opening () []
    let item : Value := .dict [("id", .str "i"), ("tool", .str "t")]
    let steps : List Step := [⟨"a", "code_exec_run_program", [("steps", .list [item])], none, none⟩,
      ⟨"i", "t", [], none, none⟩]
    let raw : Value := .list [.dict [("id", .str "a"), ("tool", .str "code_exec_run_program"),
      ("args", .dict [("steps", .list [item])])], item]
    engine.WellFormed ∧ engine.Named caller ∧ Program.read raw = .ok ⟨steps⟩ ∧
      (∀ step ∈ steps, engine.Literal step) ∧ engine.flattening steps = ["t", "t"] ∧
      (s.since (engine.run raw caller s).2).filterMap Entry.calledTool? <+:
        engine.flattening steps := by
  intro engine caller s item steps raw
  obtain ⟨noted, installed⟩ : ∃ noted, Engine.install .standard ⟨8, 8⟩
      [.single [("name", .str "t")] fun _ _ w => (.ok (.int 1), w)] = .ok (engine, noted) :=
    ⟨_, rfl⟩
  have formed : engine.WellFormed := (install_wellFormed installed).1
  have named : engine.Named caller := by
    intro name args d world thrown found
    unfold delegation? at found
    split at found
    next spec action route =>
      have member := WellFormed.mem_of_route? route
      simp [engine, ownRoutes] at member
      cases found
      simp [member]
    next label spec action route =>
      have member := WellFormed.mem_of_route? route
      simp [engine, ownRoutes] at member
    · cases found
  have literal : ∀ step ∈ steps, engine.Literal step := by
    intro step member _
    rw [Template.literal_iff]
    simp only [steps, List.mem_cons, List.not_mem_nil, or_false] at member
    rcases member with rfl | rfl
    · rfl
    · rfl
  have listed : engine.flattening steps = ["t", "t"] := by
    have inner : Step.inner ⟨"a", "code_exec_run_program", [("steps", .list [item])], none, none⟩ =
        [⟨"i", "t", [], none, none⟩] := rfl
    rw [flattening_cons_append, flattening_singleton, flattening_singleton]
    simp only [inner, flattening_singleton]
    rfl
  exact ⟨formed, named, rfl, literal, listed,
    (calls_flattened engine caller .idle raw s ⟨steps⟩ formed named rfl literal).2.2.2.1⟩

/-- Steps in a fixed sequence are refused as a program where they are submitted, and are run as the
list that they are resolved to. -/
theorem fixed_sequence_called :
    let engine : Engine Unit := ⟨.standard, ownRoutes .standard ++
      [("t", .single ⟨"t", "", []⟩ fun _ _ w => (.ok (.int 1), w))], ⟨8, 8⟩⟩
    let caller : Caller Unit := ⟨.null, fun _ => false⟩
    let s : Session Unit := .opening () []
    let args : List (String × Value) :=
      [("steps", .tuple [.dict [("id", .str "i"), ("tool", .str "t")]])]
    let raw : Value := .list [.dict [("id", .str "a"), ("tool", .str "code_exec_run_program"),
      ("args", .dict args)]]
    Program.read raw = .ok ⟨[⟨"a", "code_exec_run_program", args, none, none⟩]⟩ ∧
      engine.route? "code_exec_run_program" = some .runProgram ∧
      Template.Literal (.dict args) ∧ Program.read (.dict args) = .error .noSteps ∧
      (s.since (engine.run raw caller s).2).filterMap Entry.calledTool? = ["t"] := by
  intro engine caller s args raw
  exact ⟨rfl, rfl, (Template.literal_iff _).2 rfl, rfl, rfl⟩

end Run
end Workflow
