import Workflow.Engine
import Workflow.Proofs.Execution.Step
import Workflow.Proofs.Success

/-!
What an engine does to a session. It writes journal entries, learns schemas of delegated tools, and
calls delegated tools; `Works` is one such thing after the other, and its trace holds each entry
with the world in which it was made. Invocations, steps and runs at any depth come to nothing else,
and in a run every call is made in a world where the signal is not set. What sessions keep is read
off the trace.
-/
namespace Workflow

variable {σ : Type}

/-- An entry for the call of an installed tool. -/
def Entry.isCall (e : Entry) : Bool := e.calledTool?.isSome

/-- The entries that a session has and an earlier one has not. -/
def Session.since (s t : Session σ) : List Entry := t.journal.drop s.journal.length

/-- The calls of installed tools that a session has in its journal. -/
def Session.called (s : Session σ) : List Entry := s.journal.filter Entry.isCall

@[simp]
theorem Session.called_note {entry : Entry} (plain : entry.isCall = false) (s : Session σ) :
    (s.note entry).called = s.called := by
  simp [called, plain]

/-- Entries with the worlds in which they were made, in order. -/
abbrev Trace (σ : Type) := List (Entry × σ)

namespace Trace

def calls (trace : Trace σ) : Trace σ := trace.filter fun moment => moment.1.isCall

@[simp]
theorem calls_append (trace later : Trace σ) :
    calls (trace ++ later) = calls trace ++ calls later :=
  List.filter_append ..

@[simp]
theorem calls_cons_of_note {entry : Entry} (world : σ) (trace : Trace σ)
    (note : entry.isCall = false) : calls ((entry, world) :: trace) = calls trace := by
  simp [calls, note]

/-- Each call was made in a world where the signal was not set. -/
def Unset (caller : Caller σ) (trace : Trace σ) : Prop :=
  ∀ moment ∈ trace.calls, caller.canceled moment.2 = false

theorem unset_of_no_calls {caller : Caller σ} {trace : Trace σ} (none : trace.calls = []) :
    Unset caller trace := by
  simp [Unset, none]

theorem Unset.append {caller : Caller σ} {trace later : Trace σ} (first : Unset caller trace)
    (second : Unset caller later) : Unset caller (trace ++ later) := by
  intro moment member
  rw [calls_append, List.mem_append] at member
  exact member.elim (first moment) (second moment)

end Trace

/-- How an installed tool is called under a name: what the journal says of the call, what the tool
does, and what it is given. -/
structure Delegation (σ : Type) where
  tool : String
  label : String
  action : Action σ
  given : Value

def Delegation.entry (d : Delegation σ) (context : Value) : Entry :=
  .called d.tool d.label d.given context

namespace Engine
open Execution

/-- What a name leads to with some arguments, unless it is a tool of the engine's own or unknown. -/
def delegation? (engine : Engine σ) (name : String) (args : Value) : Option (Delegation σ) :=
  match engine.route? name with
  | some (.single spec action) => some ⟨spec.name, spec.name, action, args⟩
  | some (.member label spec action) =>
    some ⟨spec.name, label, action, .dict [("tool", .str spec.name), ("parameters", args)]⟩
  | _ => none

/-- A name leads to an installed tool that is not one of the engine's own. -/
def Delegates (engine : Engine σ) (tool : String) : Prop :=
  ∃ route, engine.route? tool = some route ∧ route.isBuiltin = false

theorem Delegates.delegation? {engine : Engine σ} {tool : String}
    (delegated : engine.Delegates tool) (args : Value) :
    ∃ d, engine.delegation? tool args = some d := by
  obtain ⟨route, found, installed⟩ := delegated
  cases route with
  | describeTools => cases installed
  | runProgram => cases installed
  | single spec action => exact ⟨_, by simp only [Engine.delegation?, found]; rfl⟩
  | member label spec action => exact ⟨_, by simp only [Engine.delegation?, found]; rfl⟩

theorem Delegates.isBuiltin {engine : Engine σ} {tool : String}
    (delegated : engine.Delegates tool) : engine.isBuiltin tool = false := by
  obtain ⟨route, found, installed⟩ := delegated
  simp [Engine.isBuiltin, found, installed]

theorem invokeWith_of_delegation {engine : Engine σ} {name : String} {args : Value}
    {d : Delegation σ} (nested : Nested σ) (caller : Caller σ) (s : Session σ)
    (found : engine.delegation? name args = some d) :
    engine.invokeWith nested name args caller s =
      callTool d.tool d.label d.action d.given caller s := by
  unfold delegation? at found
  split at found
  next spec action route =>
    cases found
    simp only [invokeWith, route]
  next label spec action route =>
    cases found
    simp only [invokeWith, route]
  · cases found

theorem invoke_of_delegation {engine : Engine σ} {name : String} {args : Value} {d : Delegation σ}
    (caller : Caller σ) (s : Session σ) (found : engine.delegation? name args = some d) :
    engine.invoke name args caller s = callTool d.tool d.label d.action d.given caller s := by
  unfold invoke
  cases engine.limits.runs <;> exact invokeWith_of_delegation _ caller s found

/-- Calling an installed tool is noted. -/
theorem called_callTool (tool label : String) (action : Action σ) (args : Value)
    (caller : Caller σ) (s : Session σ) :
    (callTool tool label action args caller s).2.called =
      s.called ++ [.called tool label args caller.context] := by
  simp [callTool, Session.called, Session.act, Session.journal, Session.note, Entry.isCall,
    Entry.calledTool?]

/-- What is not delegated is unknown or one of the engine's own tools. -/
theorem route?_of_not_delegated {engine : Engine σ} {name : String} {args : Value}
    (none : engine.delegation? name args = none) :
    engine.route? name = Option.none ∨ engine.route? name = some .describeTools ∨
      engine.route? name = some .runProgram := by
  unfold delegation? at none
  cases route : engine.route? name with
  | none => exact .inl rfl
  | some target =>
    cases target with
    | describeTools => exact .inr (.inl rfl)
    | runProgram => exact .inr (.inr rfl)
    | single spec action => simp [route] at none
    | member label spec action => simp [route] at none

theorem invokeWith_of_runProgram {engine : Engine σ} {name : String} (nested : Nested σ)
    (args : Value) (caller : Caller σ) (s : Session σ)
    (route : engine.route? name = some .runProgram) :
    engine.invokeWith nested name args caller s =
      ((nested (Program.read args) caller s).1.map fun report => report.outcome.payload,
        (nested (Program.read args) caller s).2) := by
  simp only [invokeWith, route]
  rcases nested (Program.read args) caller s with ⟨answer, after⟩
  cases answer <;> rfl

/-- One thing after the other that an engine does to a session, for a caller's context. -/
inductive Works (engine : Engine σ) (context : Value) : Session σ → Trace σ → Session σ → Prop
  | idle (s : Session σ) : Works engine context s [] s
  | notes {s t : Session σ} {trace : Trace σ} {entry : Entry} :
    entry.isCall = false →
    Works engine context (s.note entry) trace t →
    Works engine context s ((entry, s.world) :: trace) t
  | learns {s t : Session σ} {trace : Trace σ} {tool : String} {value : Value}
      {learned : List (String × Schema)} :
    engine.isBuiltin tool = false →
    Catalogue.record tool value s.learned = .ok learned →
    Works engine context { s with learned } trace t →
    Works engine context s trace t
  | calls {s t : Session σ} {trace : Trace σ} {name : String} {args : Value} {d : Delegation σ} :
    engine.delegation? name args = some d →
    Works engine context ((s.note (d.entry context)).act (d.action d.given context)).2 trace t →
    Works engine context s ((d.entry context, s.world) :: trace) t

namespace Works

variable {engine : Engine σ} {context : Value} {s t u : Session σ} {trace later : Trace σ}

theorem trans (first : Works engine context s trace t) (second : Works engine context t later u) :
    Works engine context s (trace ++ later) u := by
  induction first with
  | idle s => exact second
  | notes plain _ ih => exact .notes plain (ih second)
  | learns foreign learned _ ih => exact .learns foreign learned (ih second)
  | calls found _ ih => exact .calls found (ih second)

theorem note (s : Session σ) {entry : Entry} (plain : entry.isCall = false) :
    Works engine context s [(entry, s.world)] (s.note entry) :=
  .notes plain (.idle _)

/-- The journal grows by the entries of the trace. -/
theorem journal (work : Works engine context s trace t) :
    t.journal = s.journal ++ trace.map Prod.fst := by
  induction work with
  | idle s => simp
  | notes plain _ ih => simp [ih]
  | learns _ _ _ ih => exact ih
  | @calls s t trace name args d found _ ih =>
    rw [ih]
    have grown : ((s.note (d.entry context)).act (d.action d.given context)).2.journal =
        s.journal ++ [d.entry context] := Session.journal_note (d.entry context) s
    simp [grown]

theorem since_eq (work : Works engine context s trace t) : s.since t = trace.map Prod.fst := by
  simp [Session.since, work.journal]

/-- No call is taken back. -/
theorem called_kept (work : Works engine context s trace t) : s.called <+: t.called := by
  rw [Session.called, Session.called, work.journal, List.filter_append]
  exact List.prefix_append ..

/-- What happened since a session is what happened in between. -/
theorem since_append (first : Works engine context s trace t)
    (second : Works engine context t later u) : s.since u = s.since t ++ t.since u := by
  rw [(first.trans second).since_eq, first.since_eq, second.since_eq, List.map_append]

/-- The world changes by calls of delegated tools only. -/
theorem world_of_preserved (work : Works engine context s trace t) (P : σ → Prop)
    (kept : ∀ name args d w, engine.delegation? name args = some d → P w →
      P (d.action d.given context w).2) (start : P s.world) : P t.world := by
  induction work with
  | idle s => exact start
  | notes _ _ ih => exact ih start
  | learns _ _ _ ih => exact ih start
  | calls found _ ih => exact ih (kept _ _ _ _ found start)

/-- A schema that was learned is replaced at most. -/
theorem lookup_isSome (work : Works engine context s trace t) (tool : String)
    (known : (s.learned.lookup tool).isSome) : (t.learned.lookup tool).isSome := by
  induction work with
  | idle s => exact known
  | notes _ _ ih => exact ih known
  | @learns s t trace other value learned _ recorded _ ih =>
    obtain ⟨schema, _, same⟩ := Success.bind_ok recorded
    cases same
    apply ih
    rw [Entries.lookup_put]
    split
    · rfl
    · exact known
  | calls _ _ ih => exact ih known

/-- Nothing is learned about the engine's own tools. -/
theorem lookup_own (work : Works engine context s trace t) {tool : String}
    (own : engine.isBuiltin tool = true) : t.learned.lookup tool = s.learned.lookup tool := by
  induction work with
  | idle s => rfl
  | notes _ _ ih => exact ih
  | @learns s t trace other value learned foreign recorded _ ih =>
    obtain ⟨schema, _, same⟩ := Success.bind_ok recorded
    cases same
    have different : tool ≠ other := by
      rintro rfl
      rw [own] at foreign
      cases foreign
    rw [ih, Entries.lookup_put, if_neg different]
  | calls _ _ ih => exact ih

end Works

/-! ### Invocations -/

/-- Invocations do nothing else. A delegated tool is called once, and a tool of the engine's own
makes calls only while the signal is not set. -/
def Heeds (engine : Engine σ) (caller : Caller σ) (invoke : Invoker σ) : Prop :=
  ∀ name args s, ∃ trace, Works engine caller.context s trace (invoke name args caller s).2 ∧
    match engine.delegation? name args with
    | some d => trace = [(d.entry caller.context, s.world)]
    | none => trace.Unset caller

theorem invokeWith_heeds {engine : Engine σ} {caller : Caller σ} {nested : Nested σ}
    (inner : ∀ reading s, ∃ trace, Works engine caller.context s trace (nested reading caller s).2 ∧
      trace.Unset caller) :
    Heeds engine caller (engine.invokeWith nested) := by
  intro name args s
  cases found : engine.delegation? name args with
  | some d =>
    refine ⟨[(d.entry caller.context, s.world)], ?_, rfl⟩
    rw [invokeWith_of_delegation nested caller s found]
    exact .calls found (.idle _)
  | none =>
    obtain route | route | route := route?_of_not_delegated found
    · refine ⟨[(.unknownTool name, s.world)], ?_, Trace.unset_of_no_calls rfl⟩
      simp only [invokeWith, route]
      exact .note s rfl
    · refine ⟨[], ?_, Trace.unset_of_no_calls rfl⟩
      simp only [invokeWith, route]
      exact .idle s
    · rw [invokeWith_of_runProgram nested args caller s route]
      exact inner (Program.read args) s

/-! ### Steps and runs -/

variable {engine : Engine σ} {caller : Caller σ} {invoke : Invoker σ}

/-- About its own tools an engine learns nothing. -/
theorem learn_of_isBuiltin {engine : Engine σ} {tool : String}
    (own : engine.isBuiltin tool = true) (value : Value) (s : Session σ) :
    learn engine.learning tool value s = .ok s :=
  learn_of_unwanted (by simp [learning, own]) value s

theorem learn_of_foreign {engine : Engine σ} {tool : String}
    (foreign : engine.isBuiltin tool = false) (value : Value) (s : Session σ) :
    learn engine.learning tool value s = (fun schema => ({ s with
      learned := Entries.put tool schema s.learned } : Session σ).note (.recorded tool)) <$>
        Schema.infer value :=
  learn_of_wanted (by simp [learning, foreign]) value s

/-- Taking an answer in learns and notes, and calls nothing. -/
theorem settle_works (engine : Engine σ) (context : Value) (step : Step) (raw : Value)
    (s : Session σ) :
    ∃ trace, Works engine context s trace (settle engine.learning step raw s).2 ∧
      trace.calls = [] := by
  unfold settle
  cases Envelope.fault? engine.learning.room raw with
  | some e => exact ⟨[], .idle s, rfl⟩
  | none =>
  cases Envelope.read raw with
  | error message => exact ⟨_, .note s rfl, rfl⟩
  | ok value =>
    dsimp only
    cases own : engine.isBuiltin step.tool with
    | true =>
      rw [learn_of_isBuiltin own]
      exact ⟨_, .note s rfl, rfl⟩
    | false =>
      rw [learn_of_foreign own]
      cases inferred : Schema.infer value with
      | error unreadable => exact ⟨_, .note s rfl, rfl⟩
      | ok schema =>
        exact ⟨_, .learns own (Catalogue.record_of_infer step.tool s.learned inferred)
          (.notes rfl (.note _ rfl)), rfl⟩

theorem conclude_works (engine : Engine σ) (context : Value) (step : Step)
    (answer : Except Thrown Value) (s : Session σ) :
    ∃ trace, Works engine context s trace (conclude engine.learning step answer s).2 ∧
      trace.calls = [] := by
  cases answer with
  | error thrown =>
    change ∃ trace, Works engine context s trace (failWith step thrown s).2 ∧ _
    obtain ⟨_, _, same⟩ | ⟨_, _, same⟩ := failWith_cases step thrown s
    · rw [same]
      exact ⟨_, .note s rfl, rfl⟩
    · rw [same]
      exact ⟨[], .idle s, rfl⟩
  | ok raw => exact settle_works engine context step raw s

theorem learn_kept {learning : Learning} {tool : String} {value : Value} {s t : Session σ}
    (success : learn learning tool value s = .ok t) : t.called = s.called ∧ t.world = s.world := by
  cases wanted : learning.active && !learning.exempt tool with
  | false =>
    rw [learn_of_unwanted wanted] at success
    cases success
    exact ⟨rfl, rfl⟩
  | true =>
    rw [learn_of_wanted wanted] at success
    obtain ⟨schema, _, rfl⟩ := Success.map_ok success
    exact ⟨Session.called_note rfl _, rfl⟩

/-- Taking an answer in calls nothing and leaves the world of the tools as it is. -/
theorem conclude_kept (learning : Learning) (step : Step) (answer : Except Thrown Value)
    (s : Session σ) :
    (conclude learning step answer s).2.called = s.called ∧
      (conclude learning step answer s).2.world = s.world := by
  cases answer with
  | error thrown =>
    change (failWith step thrown s).2.called = _ ∧ (failWith step thrown s).2.world = _
    obtain ⟨_, _, same⟩ | ⟨_, _, same⟩ := failWith_cases step thrown s
    · rw [same]
      exact ⟨Session.called_note rfl s, rfl⟩
    · rw [same]
      exact ⟨rfl, rfl⟩
  | ok raw =>
    simp only [conclude, settle]
    split
    · exact ⟨rfl, rfl⟩
    · split
      · exact ⟨Session.called_note rfl s, rfl⟩
      · split
        · exact ⟨Session.called_note rfl s, rfl⟩
        next t learned =>
          obtain ⟨called, world⟩ := learn_kept learned
          exact ⟨(Session.called_note rfl t).trans called, world⟩

/-- A step calls the tool that it names once, in the world in which it starts, or calls nothing that
does not see the signal unset. -/
theorem executeStep_works (heeds : Heeds engine caller invoke) (outputs : Outputs)
    (producers : List (String × String)) (step : Step) (s : Session σ) :
    ∃ trace,
      Works engine caller.context s trace
        (executeStep engine.learning invoke outputs producers caller step s).2 ∧
      ((∃ args d, engine.delegation? step.tool (.dict args) = some d ∧
          trace.calls = [(d.entry caller.context, s.world)]) ∨
        trace.Unset caller) := by
  cases resolved : Template.resolveEntries outputs step.args with
  | error e =>
    simp only [executeStep, resolved]
    exact ⟨_, .note s rfl, .inr (Trace.unset_of_no_calls rfl)⟩
  | ok args =>
    rw [executeStep_of_resolved resolved]
    obtain ⟨trace, work, called⟩ :=
      heeds step.tool (.dict args) (s.note (.invoking step.tool step.id))
    obtain ⟨last, concluded, silent⟩ := conclude_works engine caller.context step
      (invoke step.tool (.dict args) caller (s.note (.invoking step.tool step.id))).1
      (invoke step.tool (.dict args) caller (s.note (.invoking step.tool step.id))).2
    have whole : Trace.calls ((.invoking step.tool step.id, s.world) :: (trace ++ last)) =
        trace.calls := by
      rw [Trace.calls_cons_of_note _ _ rfl, Trace.calls_append, silent, List.append_nil]
    refine ⟨_, .notes rfl (work.trans concluded), ?_⟩
    cases found : engine.delegation? step.tool (.dict args) with
    | some d =>
      rw [found] at called
      refine .inl ⟨args, d, found, ?_⟩
      rw [whole, called]
      rfl
    | none =>
      rw [found] at called
      right
      rw [Trace.Unset, whole]
      exact called

/-- A step that is started while the signal is not set makes all its calls before it is. -/
theorem executeStep_unset (heeds : Heeds engine caller invoke) (outputs : Outputs)
    (producers : List (String × String)) (step : Step) (s : Session σ)
    (unset : caller.canceled s.world = false) :
    ∃ trace,
      Works engine caller.context s trace
        (executeStep engine.learning invoke outputs producers caller step s).2 ∧
      trace.Unset caller := by
  obtain ⟨trace, work, ⟨_, d, _, called⟩ | quiet⟩ :=
    executeStep_works heeds outputs producers step s
  · refine ⟨trace, work, ?_⟩
    intro moment member
    rw [called, List.mem_singleton] at member
    rw [member]
    exact unset
  · exact ⟨trace, work, quiet⟩

/-- In a run every call is made while the signal is not set. -/
theorem steps_works (heeds : Heeds engine caller invoke) (steps : List Step) (p : Progress)
    (s : Session σ) :
    ∃ trace,
      Works engine caller.context s trace
        (Run.steps (executeStep engine.learning invoke) caller steps p s).2 ∧
      trace.Unset caller := by
  induction steps generalizing p s with
  | nil => exact ⟨[], .idle s, Trace.unset_of_no_calls rfl⟩
  | cons step rest ih =>
    cases stop : caller.canceled s.world with
    | true =>
      rw [Run.steps_of_canceled rest stop]
      exact ⟨_, .note s rfl, Trace.unset_of_no_calls rfl⟩
    | false =>
      obtain ⟨trace, work, unset⟩ := executeStep_unset heeds p.outputs p.producers step s stop
      rcases result : executeStep engine.learning invoke p.outputs p.producers caller step s
        with ⟨answer, after⟩
      rw [result] at work
      cases answer with
      | error halt =>
        rw [Run.steps_of_halted rest stop result]
        exact ⟨trace, work, unset⟩
      | ok value =>
        obtain ⟨later, ran, clean⟩ := ih (p.store step value) after
        rw [Run.steps_of_completed rest stop result]
        exact ⟨trace ++ later, work.trans ran, unset.append clean⟩

theorem complete_works (heeds : Heeds engine caller invoke) (reading : Reading) (s : Session σ) :
    ∃ trace,
      Works engine caller.context s trace
        (Run.complete (executeStep engine.learning invoke) reading caller s).2 ∧
      trace.Unset caller := by
  match reading with
  | .error (.raised cause) => exact ⟨[], .idle s, Trace.unset_of_no_calls rfl⟩
  | .error .noSteps => exact ⟨_, .note s rfl, Trace.unset_of_no_calls rfl⟩
  | .error (.invalid problems) => exact ⟨_, .note s rfl, Trace.unset_of_no_calls rfl⟩
  | .ok program =>
    obtain ⟨trace, work, unset⟩ := steps_works heeds program.steps .initial
      (s.note (.running program.steps.length))
    exact ⟨_, .notes rfl work, by rwa [Trace.Unset, Trace.calls_cons_of_note _ _ rfl]⟩

/-- Invocations heed the signal however deep runs may still nest. -/
theorem invokeAt_heeds (engine : Engine σ) (caller : Caller σ) (depth : Nat) :
    Heeds engine caller (engine.invokeAt depth) := by
  induction depth with
  | zero => exact invokeWith_heeds fun _ s => ⟨[], .idle s, Trace.unset_of_no_calls rfl⟩
  | succ depth ih =>
    refine invokeWith_heeds fun reading s => ?_
    obtain ⟨trace, work, unset⟩ := complete_works ih reading s
    refine ⟨trace, ?_, unset⟩
    unfold nestedBy
    rcases ran : Run.complete (executeStep engine.learning (engine.invokeAt depth)) reading caller s
      with ⟨answer, after⟩
    rw [ran] at work
    cases answer <;> exact work

theorem invoke_heeds (engine : Engine σ) (caller : Caller σ) : Heeds engine caller engine.invoke :=
  invokeAt_heeds engine caller engine.limits.runs

end Engine
end Workflow
