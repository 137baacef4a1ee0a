import Mathlib.Data.List.Infix
import Workflow.Proofs.Engine.Nesting
import Workflow.Proofs.Host.Payload
import Workflow.Proofs.Run.Cancellation

/-!
What cancelling takes away. A run that heeds a signal is compared with the same run without one,
for tools that cannot tell whether the signal is set: a view of the world says what they can. The
two are in lock-step until a check sees the signal, at whatever depth; then the run with the signal
fails outwards, level by level, and the other one goes on. So the former is a truncation of the
latter.
-/
namespace Workflow

variable {σ τ : Type}

/-- The caller who never cancels. -/
def Caller.unsignaled (caller : Caller σ) : Caller σ := ⟨caller.context, fun _ => false⟩

namespace Session

/-- Two sessions that tools cannot tell apart: the view of their worlds is the same, and so is what
was learned and called. -/
structure Alike (view : σ → τ) (s s' : Session σ) : Prop where
  world : view s.world = view s'.world
  learned : s.learned = s'.learned
  called : s.called = s'.called

theorem Alike.refl (view : σ → τ) (s : Session σ) : s.Alike view s := ⟨rfl, rfl, rfl⟩

theorem Alike.symm {view : σ → τ} {s s' : Session σ} (alike : s.Alike view s') :
    s'.Alike view s :=
  ⟨alike.world.symm, alike.learned.symm, alike.called.symm⟩

theorem Alike.trans {view : σ → τ} {s t u : Session σ} (first : s.Alike view t)
    (second : t.Alike view u) : s.Alike view u :=
  ⟨first.world.trans second.world, first.learned.trans second.learned,
    first.called.trans second.called⟩

theorem Alike.note {view : σ → τ} {s s' : Session σ} (alike : s.Alike view s')
    {entry entry' : Entry} (plain : entry.isCall = false) (plain' : entry'.isCall = false) :
    (s.note entry).Alike view (s'.note entry') :=
  ⟨alike.world, alike.learned, by rw [called_note plain, called_note plain', alike.called]⟩

/-- Calls that are added to the same ones are compared by comparing all. -/
theorem exists_calls {s s' t t' : Session σ} (same : s.called = s'.called)
    (grown : s.called <+: t.called) (grown' : s'.called <+: t'.called)
    (fewer : t.called <+: t'.called) :
    ∃ calls calls', t.called = s.called ++ calls ∧ t'.called = s'.called ++ calls' ∧
      calls <+: calls' := by
  obtain ⟨calls, grown⟩ := grown
  obtain ⟨calls', grown'⟩ := grown'
  refine ⟨calls, calls', grown.symm, grown'.symm, ?_⟩
  rwa [← grown, ← grown', same, List.prefix_append_right_inj] at fewer

/-- Two results are the same, and so are the sessions for all that tools can tell. -/
structure InLock {α : Type} (view : σ → τ) (x x' : α × Session σ) : Prop where
  result : x.1 = x'.1
  session : x.2.Alike view x'.2

end Session

/-- The last thing that happened is that a run was cancelled, because the signal is set, and every
run around it has failed for this. -/
structure Halted (caller : Caller σ) (t : Session σ) : Prop where
  signal : caller.canceled t.world = true
  last : ∃ failures id before, t.recent = failures ++ .canceledBefore id :: before ∧
    ∀ entry ∈ failures, ∃ step tool, entry = .failed step tool canceledText

theorem Halted.failed {caller : Caller σ} {t : Session σ} (halted : Halted caller t)
    (step : Step) : Halted caller (t.note (.failed step.id step.tool canceledText)) := by
  obtain ⟨failures, id, before, recent, canceled⟩ := halted.last
  refine ⟨halted.signal, .failed step.id step.tool canceledText :: failures, id, before, ?_, ?_⟩
  · rw [List.cons_append, ← recent]
    rfl
  · exact List.forall_mem_cons.2 ⟨⟨_, _, rfl⟩, canceled⟩

/-- A run has halted, having called a part of what another one has. -/
structure Behind (caller : Caller σ) (t t' : Session σ) : Prop where
  halted : Halted caller t
  called : t.called <+: t'.called

theorem Behind.trans {caller : Caller σ} {t t' u : Session σ} (behind : Behind caller t t')
    (later : t'.called <+: u.called) : Behind caller t u :=
  ⟨behind.halted, behind.called.trans later⟩

namespace Engine
open Execution

/-- What installed tools answer, and what they do to the view of the world, depends on nothing but
the view. -/
def Unobserving (engine : Engine σ) (context : Value) (view : σ → τ) : Prop :=
  ∀ name args d w w', engine.delegation? name args = some d → view w = view w' →
    (d.action d.given context w).1 = (d.action d.given context w').1 ∧
      view (d.action d.given context w).2 = view (d.action d.given context w').2

/-- Calls with and without the signal: they are in lock-step, or the tool runs a program, which has
halted. -/
def Lags (engine : Engine σ) (caller : Caller σ) (view : σ → τ) (invoke : Invoker σ) : Prop :=
  ∀ name args s s', s.Alike view s' →
    Session.InLock view (invoke name args caller s) (invoke name args caller.unsignaled s') ∨
      engine.runsProgram name = true ∧
        (∃ raw, (invoke name args caller s).1 = .ok raw ∧
          Envelope.fault? engine.limits.texts raw = none ∧
          Envelope.read raw = .error canceledText) ∧
        Behind caller (invoke name args caller s).2 (invoke name args caller.unsignaled s').2

/-- The same for steps. -/
def StepLags (engine : Engine σ) (caller : Caller σ) (view : σ → τ) (execute : Executor σ) : Prop :=
  ∀ outputs producers step s s', s.Alike view s' →
    Session.InLock view (execute outputs producers caller step s)
        (execute outputs producers caller.unsignaled step s') ∨
      engine.runsProgram step.tool = true ∧
        (execute outputs producers caller step s).1 = .error (.failed canceledText) ∧
        Behind caller (execute outputs producers caller step s).2
          (execute outputs producers caller.unsignaled step s').2

variable {engine : Engine σ} {caller : Caller σ} {view : σ → τ} {s s' : Session σ}

/-! ### Steps -/

theorem callTool_inLock (tool label : String) {action : Action σ} {args : Value}
    (unobserving : ∀ w w', view w = view w' →
      (action args caller.context w).1 = (action args caller.context w').1 ∧
        view (action args caller.context w).2 = view (action args caller.context w').2)
    (alike : s.Alike view s') :
    Session.InLock view (callTool tool label action args caller s)
      (callTool tool label action args caller.unsignaled s') := by
  obtain ⟨answer, changed⟩ := unobserving s.world s'.world alike.world
  refine ⟨answer, changed, alike.learned, ?_⟩
  rw [called_callTool, called_callTool, alike.called]
  rfl

/-- What is learned depends on what has been learned. -/
theorem learn_alike (learning : Learning) (tool : String) (value : Value)
    (alike : s.Alike view s') :
    (∃ cause, learn learning tool value s = .error cause ∧
        learn learning tool value s' = .error cause) ∨
      ∃ t t', learn learning tool value s = .ok t ∧ learn learning tool value s' = .ok t' ∧
        t.Alike view t' := by
  unfold learn
  split
  · rw [alike.learned]
    cases Catalogue.record tool value s'.learned with
    | error cause => exact .inl ⟨cause, rfl, rfl⟩
    | ok learned =>
      have changed : Session.Alike view { s with learned } { s' with learned } :=
        ⟨alike.world, rfl, alike.called⟩
      exact .inr ⟨_, _, rfl, rfl, changed.note rfl rfl⟩
  · exact .inr ⟨s, s', rfl, rfl, alike⟩

theorem conclude_inLock (learning : Learning) (step : Step) (answer : Except Thrown Value)
    (alike : s.Alike view s') :
    Session.InLock view (conclude learning step answer s) (conclude learning step answer s') := by
  cases answer with
  | error thrown =>
    simp only [conclude, failWith]
    cases thrown.description with
    | ok message => exact ⟨rfl, alike.note rfl rfl⟩
    | error cause => exact ⟨rfl, alike⟩
  | ok raw =>
    simp only [conclude, settle]
    cases Envelope.fault? learning.room raw with
    | some e => exact ⟨rfl, alike⟩
    | none =>
    cases Envelope.read raw with
    | error message => exact ⟨rfl, alike.note rfl rfl⟩
    | ok value =>
      dsimp only
      obtain ⟨cause, refused, refused'⟩ | ⟨t, t', learned, learned', alike⟩ :=
        learn_alike learning step.tool value alike
      · rw [refused, refused']
        exact ⟨rfl, alike.note rfl rfl⟩
      · rw [learned, learned']
        exact ⟨rfl, alike.note rfl rfl⟩

/-- A step whose tool has halted fails for this. -/
theorem executeStep_lags {invoke : Invoker σ} (lags : engine.Lags caller view invoke) :
    engine.StepLags caller view (executeStep engine.learning invoke) := by
  intro outputs producers step s s' alike
  cases resolved : Template.resolveEntries outputs step.args with
  | error e =>
    simp only [executeStep, resolved, alike.learned]
    exact .inl ⟨rfl, alike.note rfl rfl⟩
  | ok args =>
    have begun : (s.note (.invoking step.tool step.id)).Alike view
        (s'.note (.invoking step.tool step.id)) := alike.note rfl rfl
    rw [executeStep_of_resolved resolved, executeStep_of_resolved resolved]
    obtain ⟨answer, session⟩ | ⟨runs, ⟨raw, answer, sound, read⟩, behind⟩ :=
      lags step.tool (.dict args) _ _ begun
    · rw [answer]
      exact .inl (conclude_inLock engine.learning step _ session)
    · obtain ⟨called, _⟩ := conclude_kept engine.learning step
        (invoke step.tool (.dict args) caller.unsignaled
          (s'.note (.invoking step.tool step.id))).1
        (invoke step.tool (.dict args) caller.unsignaled
          (s'.note (.invoking step.tool step.id))).2
      have failed (t : Session σ) : conclude engine.learning step (.ok raw) t =
          (.error (.failed canceledText), t.note (.failed step.id step.tool canceledText)) := by
        simp only [conclude, settle, learning_room, sound, read, fail]
      rw [answer, failed]
      refine .inr ⟨runs, rfl, behind.halted.failed step, ?_⟩
      rw [Session.called_note rfl, called]
      exact behind.called

end Engine

/-! ### Runs -/

/-- What happens after a step that has halted is for tools as if nothing did. -/
theorem Halt.afterwards_alike {view : σ → τ} {interim : Interim σ}
    (mute : ∀ k (s : Session σ), s.Alike view (interim k s)) (halt : Halt) (k : Nat)
    (s : Session σ) : s.Alike view (halt.afterwards interim k s) := by
  cases halt with
  | failed message => exact (mute k s).trans (mute (k + 1) _)
  | raised cause => exact mute k s

namespace Run
open Execution

/-- The statuses of a run are first ones of those of another, but for a last one, which tells that a
step has failed that runs a program and has halted. -/
inductive Abridged (engine : Engine σ) (caller : Caller σ) (execute : Executor σ)
    (steps : List Step) : List StatusEvent → List StatusEvent → Prop
  | first {statuses statuses' : List StatusEvent} :
    statuses <+: statuses' →
    Abridged engine caller execute steps statuses statuses'
  | halted {early statuses' : List StatusEvent} {step : Step} {outputs : Outputs}
      {producers : List (String × String)} {s t : Session σ} :
    early <+: statuses' →
    step ∈ steps →
    engine.runsProgram step.tool = true →
    execute outputs producers caller step s = (.error (.failed canceledText), t) →
    Halted caller t →
    Abridged engine caller execute steps (early ++ [.failed step canceledText]) statuses'

/-- How a stream with the signal, which has some steps left, compares with the run without it: both
do the same, or the stream ends early. It has halted then, before anything else happened. -/
inductive RunLags (engine : Engine σ) (caller : Caller σ) (view : σ → τ) (execute : Executor σ)
    (interim : Interim σ) (left : List Step) (p : Progress) (c : Course) (after : Session σ)
    (whole : Course × Session σ) : Prop
  | same :
    c = whole.1 →
    after.Alike view whole.2 →
    RunLags engine caller view execute interim left p c after whole
  | early {t : Session σ} {outcome : Outcome} :
    c.closing = .ok outcome →
    outcome.error? = some canceledText →
    Behind caller t whole.2 →
    after.called = t.called →
    (interim = .idle → after = t) →
    Abridged engine caller execute left c.statuses whole.1.statuses →
    ((Entries.keys p.outputs ++ left.map Step.id).Nodup →
      ∀ outcome', whole.1.closing = .ok outcome' → outcome.outputs <+: outcome'.outputs) →
    RunLags engine caller view execute interim left p c after whole

section
variable {engine : Engine σ} {caller : Caller σ} {execute : Executor σ} {step : Step}
  {rest : List Step}

theorem Abridged.cons_cons {statuses statuses' : List StatusEvent} (first second : StatusEvent)
    (abridged : Abridged engine caller execute rest statuses statuses') :
    Abridged engine caller execute (step :: rest) (first :: second :: statuses)
      (first :: second :: statuses') := by
  cases abridged with
  | first early =>
    exact .first ((List.prefix_cons_inj first).2 ((List.prefix_cons_inj second).2 early))
  | halted early member runs failed halted =>
    have longer := (List.prefix_cons_inj first).2 ((List.prefix_cons_inj second).2 early)
    have later := Abridged.halted longer (.tail step member) runs failed halted
    exact later

/-- The outputs there are stay the first ones. -/
theorem outputs_kept (execute : Executor σ) (caller : Caller σ) (left : List Step)
    (p : Progress) (s : Session σ) (fresh : (Entries.keys p.outputs ++ left.map Step.id).Nodup)
    (outcome : Outcome) (closed : (steps execute caller left p s).1.closing = .ok outcome) :
    p.outputs <+: outcome.outputs := by
  induction left generalizing p s with
  | nil =>
    cases closed
    exact List.prefix_rfl
  | cons step rest ih =>
    cases stop : caller.canceled s.world with
    | true =>
      rw [steps_of_canceled rest stop] at closed
      cases closed
      exact List.prefix_rfl
    | false =>
      rcases result : execute p.outputs p.producers caller step s with ⟨answer, after⟩
      cases answer with
      | error halt =>
        rw [steps_of_halted rest stop result] at closed
        cases halt <;> cases closed
        exact List.prefix_rfl
      | ok value =>
        rw [steps_of_completed rest stop result] at closed
        have appended : p.outputs <+: (p.store step value).outputs := by
          rw [Progress.outputs_store value fresh]
          exact List.prefix_append ..
        exact appended.trans (ih _ after (Progress.fresh_store value fresh) closed)

end

section
variable {engine : Engine σ} {caller : Caller σ} {view : σ → τ} {invoke : Invoker σ}
  {interim : Interim σ}

theorem called_prefix_steps (heeds : engine.Heeds caller invoke) (left : List Step) (p : Progress)
    (s : Session σ) :
    s.called <+: (steps (executeStep engine.learning invoke) caller left p s).2.called := by
  obtain ⟨_, work, _⟩ := engine.steps_works heeds left p s
  exact work.called_kept

/-- A run whose first step is executed has started it, and has all its calls. -/
theorem extends_of_unset (heeds : engine.Heeds caller invoke) (step : Step) (rest : List Step)
    (p : Progress) (s : Session σ) (unset : caller.canceled s.world = false) :
    [StatusEvent.started step] <+:
        (steps (executeStep engine.learning invoke) caller (step :: rest) p s).1.statuses ∧
      (executeStep engine.learning invoke p.outputs p.producers caller step s).2.called <+:
        (steps (executeStep engine.learning invoke) caller (step :: rest) p s).2.called := by
  rcases result : executeStep engine.learning invoke p.outputs p.producers caller step s
    with ⟨answer, after⟩
  cases answer with
  | error halt =>
    rw [steps_of_halted rest unset result]
    exact ⟨by cases halt <;> exact List.prefix_append [_] _, List.prefix_rfl⟩
  | ok value =>
    rw [steps_of_completed rest unset result]
    exact ⟨List.prefix_append [_] _, called_prefix_steps heeds rest _ after⟩

/-- A step that both complete changes nothing about how they compare. -/
theorem RunLags.next {execute : Executor σ} {step : Step} {rest : List Step} {p : Progress}
    {value : Value} {c : Course} {after : Session σ} {whole : Course × Session σ}
    (lag : RunLags engine caller view execute interim rest (p.store step value) c after whole) :
    RunLags engine caller view execute interim (step :: rest) p
      ⟨.started step :: .completed step :: c.statuses, c.closing⟩ after
      (⟨.started step :: .completed step :: whole.1.statuses, whole.1.closing⟩, whole.2) := by
  cases lag with
  | same equal alike => exact .same (by rw [equal]) alike
  | early closed error behind called idle abridged outputs =>
    exact .early closed error behind called idle (abridged.cons_cons _ _) fun fresh =>
      outputs (Progress.fresh_store value fresh)

/-- A stream with the signal is in lock-step with the run without it, or ends early. -/
theorem takeAmid_lags (heeds : engine.Heeds caller.unsignaled invoke)
    (lags : engine.Lags caller view invoke)
    (mute : ∀ k (s : Session σ), s.Alike view (interim k s)) (left : List Step) (k : Nat)
    (p : Progress) (s s' : Session σ) (alike : s.Alike view s') :
    ∃ (c : Course) (after : Session σ),
      Phase.takeAmid (executeStep engine.learning invoke) caller interim (2 * left.length + 1) k
          (.before left p) s = (c.notices, .closed, after) ∧
      RunLags engine caller view (executeStep engine.learning invoke) interim left p c after
        (steps (executeStep engine.learning invoke) caller.unsignaled left p s') := by
  -- As long as the two are in lock-step, so are the steps that are left, two events later.
  induction left generalizing k p s s' with
  | nil =>
    exact ⟨⟨[], .ok _⟩, _, rfl, .same rfl ((mute k s).symm.trans alike)⟩
  | cons step rest ih =>
    rw [Phase.pulls_cons]
    cases stop : caller.canceled s.world with
    | true =>
      have halted : Halted caller (s.note (.canceledBefore step.id)) :=
        ⟨stop, [], step.id, s.recent, rfl, nofun⟩
      have called : (s.note (.canceledBefore step.id)).called = s'.called :=
        (Session.called_note rfl s).trans alike.called
      refine ⟨⟨[], .ok ⟨.canceled, p.outputs⟩⟩, _, Phase.takeAmid_of_canceled stop _,
        .early rfl rfl ⟨halted, ?_⟩ (mute k _).called.symm ?_ (.first List.nil_prefix)
          (outputs_kept _ _ _ p s')⟩
      · rw [called]
        exact called_prefix_steps heeds (step :: rest) p s'
      · rintro rfl
        rfl
    | false =>
      obtain ⟨started, more⟩ := extends_of_unset heeds step rest p s' rfl
      have lag := Engine.executeStep_lags lags p.outputs p.producers step (interim k s) s'
        ((mute k s).symm.trans alike)
      rcases result : executeStep engine.learning invoke p.outputs p.producers caller step
        (interim k s) with ⟨answer, t⟩
      rcases result' : executeStep engine.learning invoke p.outputs p.producers caller.unsignaled
        step s' with ⟨answer', t'⟩
      rw [result, result'] at lag
      rw [result'] at more
      obtain ⟨rfl, alike⟩ | ⟨runs, rfl, behind⟩ := lag
      · cases answer with
        | error halt =>
          rw [steps_of_halted rest rfl result']
          exact ⟨_, _, Phase.takeAmid_of_halted stop result _,
            .same rfl ((halt.afterwards_alike mute _ t).symm.trans alike)⟩
        | ok value =>
          obtain ⟨c, after, taken, lag⟩ := ih (k + 2) (p.store step value) (interim (k + 1) t) t'
            ((mute _ t).symm.trans alike)
          rw [Phase.takeAmid_of_completed stop result, taken, steps_of_completed rest rfl result']
          exact ⟨⟨.started step :: .completed step :: c.statuses, c.closing⟩, after, rfl, lag.next⟩
      · refine ⟨_, _, Phase.takeAmid_of_halted stop result _,
          .early rfl rfl (behind.trans more) ((mute _ t).trans (mute _ _)).called.symm ?_
            (.halted started (by simp) runs result behind.halted) (outputs_kept _ _ _ p s')⟩
        rintro rfl
        rfl

/-- The same for runs that are completed at once. -/
theorem steps_lags (heeds : engine.Heeds caller.unsignaled invoke)
    (lags : engine.Lags caller view invoke) (left : List Step) (p : Progress) (s s' : Session σ)
    (alike : s.Alike view s') :
    RunLags engine caller view (executeStep engine.learning invoke) .idle left p
      (steps (executeStep engine.learning invoke) caller left p s).1
      (steps (executeStep engine.learning invoke) caller left p s).2
      (steps (executeStep engine.learning invoke) caller.unsignaled left p s') := by
  have still (k : Nat) (t : Session σ) : t.Alike view (Interim.idle k t) := .refl view t
  obtain ⟨c, after, taken, lag⟩ := takeAmid_lags heeds lags still left 0 p s s' alike
  rw [Phase.takeAmid_idle, Phase.take_before, Prod.mk.injEq, Prod.mk.injEq] at taken
  obtain ⟨notices, _, rfl⟩ := taken
  rwa [Phase.notices_injective notices]

end

end Run

/-! ### Runs within runs -/

namespace Engine
open Execution

variable {engine : Engine σ} {caller : Caller σ} {view : σ → τ}

/-- Runs that steps start, with and without the signal: they are in lock-step, or the one with it
has halted. -/
def NestedLags (caller : Caller σ) (view : σ → τ) (nested : Nested σ) : Prop :=
  ∀ reading s s', s.Alike view s' →
    Session.InLock view (nested reading caller s) (nested reading caller.unsignaled s') ∨
      (∃ report, (nested reading caller s).1 = .ok report ∧
        report.outcome.error? = some canceledText) ∧
      Behind caller (nested reading caller s).2 (nested reading caller.unsignaled s').2

theorem tooDeep_lags : NestedLags caller view tooDeep :=
  fun _ _ _ alike => .inl ⟨rfl, alike⟩

theorem nestedBy_lags {invoke : Invoker σ} (heeds : engine.Heeds caller.unsignaled invoke)
    (lags : engine.Lags caller view invoke) :
    NestedLags caller view (engine.nestedBy invoke) := by
  intro reading s s' alike
  match reading with
  | .error (.raised cause) => exact .inl ⟨rfl, alike⟩
  | .error .noSteps => exact .inl ⟨rfl, alike.note rfl rfl⟩
  | .error (.invalid problems) => exact .inl ⟨rfl, alike.note rfl rfl⟩
  | .ok program =>
    have begun : (s.note (.running program.steps.length)).Alike view
        (s'.note (.running program.steps.length)) := alike.note rfl rfl
    cases Run.steps_lags heeds lags program.steps .initial _ _ begun with
    | same equal alike => exact .inl ⟨congrArg Course.report equal, alike⟩
    | early closed error behind called idle =>
      obtain rfl := idle rfl
      exact .inr ⟨⟨⟨_, _⟩, congrArg (Except.map _) closed, error⟩, behind⟩

theorem invokeWith_lags (unobserving : engine.Unobserving caller.context view)
    {nested : Nested σ} (lags : NestedLags caller view nested) :
    engine.Lags caller view (engine.invokeWith nested) := by
  intro name args s s' alike
  cases found : engine.delegation? name args with
  | some d =>
    rw [invokeWith_of_delegation nested caller s found, invokeWith_of_delegation nested _ s' found]
    have unobserved (w w' : σ) := unobserving name args d w w' found
    exact .inl (callTool_inLock d.tool d.label unobserved alike)
  | none =>
    obtain route | route | route := route?_of_not_delegated found
    · simp only [invokeWith, route]
      exact .inl ⟨rfl, alike.note rfl rfl⟩
    · simp only [invokeWith, route]
      refine .inl ⟨?_, alike⟩
      simp only [describeCall, describeTools, alike.learned]
    · rw [invokeWith_of_runProgram nested args caller s route,
        invokeWith_of_runProgram nested args caller.unsignaled s' route]
      obtain ⟨answer, session⟩ | ⟨⟨report, ran, error⟩, behind⟩ :=
        lags (Program.read args) s s' alike
      · rw [answer]
        exact .inl ⟨rfl, session⟩
      · rw [ran]
        exact .inr ⟨runsProgram_of_route? route, ⟨_, rfl,
          Outcome.fault?_payload_of_error engine.limits.texts error (by decide),
          Outcome.read_payload_of_error error (by decide)⟩, behind⟩

/-- However deep runs may nest, calls are in lock-step until a check sees the signal. -/
theorem invokeAt_lags (unobserving : engine.Unobserving caller.context view) (depth : Nat) :
    engine.Lags caller view (engine.invokeAt depth) := by
  induction depth with
  | zero => exact invokeWith_lags unobserving tooDeep_lags
  | succ depth ih =>
    exact invokeWith_lags unobserving
      (nestedBy_lags (invokeAt_heeds engine caller.unsignaled depth) ih)

end Engine

namespace Run

/-- No call of a stream is taken back. -/
theorem called_prefix_takeAmid (engine : Engine σ) (caller : Caller σ) {view : σ → τ}
    {interim : Interim σ} (mute : ∀ k (s : Session σ), s.Alike view (interim k s)) (n k : Nat)
    (phase : Phase) (s : Session σ) :
    s.called <+: (phase.takeAmid engine.execute caller interim n k s).2.2.called := by
  induction n generalizing k phase s with
  | zero => exact List.prefix_rfl
  | succ n ih =>
    obtain ⟨_, work⟩ := engine.pull_works caller phase s
    rcases pulled : phase.pull engine.execute caller s with ⟨notice?, next, after⟩
    rw [pulled] at work
    cases notice? with
    | none => simpa only [Phase.takeAmid, pulled] using work.called_kept
    | some notice =>
      rw [Phase.takeAmid_of_pull n k pulled]
      have later := ih (k + 1) next (interim k after)
      rw [← (mute k after).called] at later
      exact work.called_kept.trans later

/-- What a stream and a run without the signal have called, stored and reported: the former has
first ones of the calls, its outputs are first ones, and so are its statuses, but for a last one
that tells of a step that runs a program and has halted. An exception that leaves the stream leaves
the run, too. -/
structure Truncation (engine : Engine σ) (caller : Caller σ) (program : Program)
    (s s' : Session σ) (c : Course) (after : Session σ) (whole : Course) (after' : Session σ) :
    Prop where
  calls : ∃ calls calls', after.called = s.called ++ calls ∧ after'.called = s'.called ++ calls' ∧
    calls <+: calls'
  outputs : ∀ outcome outcome', c.closing = .ok outcome → whole.closing = .ok outcome' →
    outcome.outputs <+: outcome'.outputs
  statuses : Abridged engine caller engine.execute program.steps c.statuses whole.statuses
  raised : ∀ cause, c.closing = .error cause → whole.closing = .error cause

/-- A run that is cancelled is a truncation of the run that is not, whenever the signal is set, if
no tool can tell whether it is. -/
theorem truncated_by_cancellation (engine : Engine σ) (caller : Caller σ) (view : σ → τ)
    (unobserving : engine.Unobserving caller.context view) (interim : Interim σ)
    (mute : ∀ k (s : Session σ), s.Alike view (interim k s)) (raw : Value) (program : Program)
    (accepted : Program.read raw = .ok program) (s s' : Session σ) (alike : s.Alike view s') :
    ∃ (c : Course) (after : Session σ) (whole : Course) (after' : Session σ),
      Followed engine caller interim raw s c after ∧
      engine.run raw caller.unsignaled s' = (whole.report, after') ∧
      Truncation engine caller program s s' c after whole after' := by
  obtain ⟨_, distinct⟩ := Program.read_wellFormed accepted
  have heeds := Engine.invoke_heeds engine caller.unsignaled
  have lags := Engine.invokeAt_lags unobserving engine.limits.runs
  have begun : (s.note (.running program.steps.length)).Alike view
      (s'.note (.running program.steps.length)) := alike.note rfl rfl
  obtain ⟨c, after, taken, lag⟩ := takeAmid_lags heeds lags mute program.steps 0 .initial _ _ begun
  have drained : Phase.drainAmid engine.execute caller interim (.submitted (Program.read raw)) s =
      (c.notices, .closed, after) := by
    rw [accepted, ← taken]
    rfl
  refine ⟨c, after, _, _, followed_of_drainAmid drained, by rw [Engine.run, accepted]; rfl, ?_⟩
  have stopped : s.called <+: (Phase.drainAmid engine.execute caller interim
      (.submitted (Program.read raw)) s).2.2.called :=
    called_prefix_takeAmid engine caller mute _ _ _ s
  rw [drained] at stopped
  have went := called_prefix_steps heeds program.steps .initial
    (s'.note (.running program.steps.length))
  rw [Session.called_note rfl] at went
  have compared := Session.exists_calls alike.called stopped went
  cases lag with
  | same equal alike =>
    refine ⟨compared ?_, ?_, ?_, ?_⟩
    · exact alike.called ▸ List.prefix_rfl
    · rintro outcome outcome' closed closed'
      rw [equal] at closed
      exact Except.ok.inj (closed.symm.trans closed') ▸ List.prefix_rfl
    · exact .first (equal ▸ List.prefix_rfl)
    · exact fun cause raised => equal ▸ raised
  | early closed error behind called idle abridged outputs =>
    refine ⟨compared ?_, fun outcome outcome' ended ended' => ?_, abridged, fun cause raised => ?_⟩
    · exact called ▸ behind.called
    · rw [closed] at ended
      exact Except.ok.inj ended ▸
        outputs (by simpa [Progress.initial, Entries.keys] using distinct) outcome' ended'
    · rw [closed] at raised
      cases raised

/-- What is received of a stream with nothing in between is what the run reports. -/
theorem Followed.run_of_idle {engine : Engine σ} {caller : Caller σ} {raw : Value}
    {s after : Session σ} {c : Course} (followed : Followed engine caller .idle raw s c after) :
    engine.run raw caller s = (c.report, after) := by
  obtain ⟨statuses, closing⟩ := c
  cases closing with
  | ok outcome =>
    obtain ⟨told, _, events, run⟩ := followed
    have shown := Event.mapM_ofNotice ⟨told, .ok outcome⟩
    rw [Course.notices, Notice.ofClosing, events] at shown
    have same : statuses = told :=
      List.map_injective_iff.2 (fun _ _ equal => Event.status.inj equal)
        (List.append_cancel_right (Except.ok.inj shown))
    rw [run rfl, same]
    rfl
  | error cause =>
    obtain ⟨_, _, _, _, run⟩ := followed
    exact run rfl

/-- A tool that sets the signal within a run that a step has started: this step fails, and the next
one is not started. -/
theorem truncated_by_cancellation_nested :
    let act (stop : Bool) : Action (Nat × Bool) :=
      fun _ _ w => (.ok (.int w.1), (w.1 + 1, w.2 || stop))
    let inner : Value := .list [.dict [("id", .str "a"), ("tool", .str "stop")],
      .dict [("id", .str "b"), ("tool", .str "go")]]
    let raw : Value := .list [
      .dict [("id", .str "n"), ("tool", .str "run"), ("args", .dict [("steps", inner)])],
      .dict [("id", .str "c"), ("tool", .str "go")]]
    let engine : Engine (Nat × Bool) := ⟨.standard, [("run", .runProgram),
      ("stop", .single ⟨"stop", "", []⟩ (act true)), ("go", .single ⟨"go", "", []⟩ (act false))],
      ⟨1, 8⟩⟩
    let caller : Caller (Nat × Bool) := ⟨.null, Prod.snd⟩
    let s : Session (Nat × Bool) := .opening (0, false) []
    engine.Unobserving caller.context Prod.fst ∧
      ∃ program c after whole after', Program.read raw = .ok program ∧
        engine.run raw caller s = (c.report, after) ∧ c.statuses.length = 2 ∧
        (∃ outcome, c.closing = .ok outcome) ∧
        engine.run raw caller.unsignaled s = (whole.report, after') ∧ whole.statuses.length = 4 ∧
        (∃ outcome, whole.closing = .ok outcome) ∧
        Truncation engine caller program s s c after whole after' := by
  intro act inner raw engine caller s
  have unobserving : engine.Unobserving caller.context Prod.fst := by
    intro name args d w w' found same
    have acts : ∃ stop, d.action = act stop := by
      unfold Engine.delegation? at found
      split at found
      next spec action route =>
        cases found
        have listed := Engine.WellFormed.mem_of_route? route
        simp only [engine, List.mem_cons, Prod.mk.injEq, reduceCtorEq, and_false,
          Route.single.injEq, List.not_mem_nil, or_false, false_or] at listed
        rcases listed with ⟨_, _, rfl⟩ | ⟨_, _, rfl⟩
        · exact ⟨true, rfl⟩
        · exact ⟨false, rfl⟩
      next label spec action route =>
        have listed := Engine.WellFormed.mem_of_route? route
        simp [engine] at listed
      · cases found
    obtain ⟨stop, acts⟩ := acts
    rw [acts]
    exact ⟨congrArg (fun n : Nat => Except.ok (Value.int n)) same, congrArg (· + 1) same⟩
  obtain ⟨program, accepted⟩ : ∃ program, Program.read raw = .ok program := ⟨_, rfl⟩
  obtain ⟨c, after, whole, after', followed, ran, truncation⟩ :=
    truncated_by_cancellation engine caller Prod.fst unobserving .idle (fun _ => .refl _) raw
      program accepted s s (.refl _ s)
  have run := followed.run_of_idle
  have two : (engine.run raw caller s).1.map (fun r => r.statuses.length) = .ok 2 := by
    decide +kernel
  have four : (engine.run raw caller.unsignaled s).1.map (fun r => r.statuses.length) = .ok 4 := by
    decide +kernel
  rw [run] at two
  rw [ran] at four
  obtain ⟨short, ended⟩ := length_of_report c two
  obtain ⟨long, ended'⟩ := length_of_report whole four
  exact ⟨unobserving, program, c, after, whole, after', accepted, run, short, ended, ran, long,
    ended', truncation⟩

end Run
end Workflow
