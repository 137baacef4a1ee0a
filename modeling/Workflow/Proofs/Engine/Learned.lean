import Mathlib.Logic.Relation
import Workflow.Proofs.Engine.Work
import Workflow.Run

/-!
What an engine has learned. Whatever it does to a session is a sequence of moves: it makes an entry
that is no result, a tool changes the world, or a step of a known tool succeeds, learns the schema
of its result and adds the result to the journal. Each move keeps what has been learned about every
tool equal to the schema of the latest result in the journal, so no operation, no failure and no
order of operations can set the two apart.
-/
namespace Workflow

variable {σ : Type}

namespace Session

/-- The tools of the successful steps and what these stored, the latest first. -/
def results (s : Session σ) : List (String × Value) := s.recent.filterMap Entry.result?

/-- What the latest successful step of a tool stored. -/
def latest? (tool : String) (s : Session σ) : Option Value := s.results.lookup tool

theorem results_note_of_none {entry : Entry} (s : Session σ) (none : entry.result? = none) :
    (s.note entry).results = s.results := by
  simp [results, note, none]

@[simp]
theorem results_note_completed (step tool : String) (value : Value) (s : Session σ) :
    (s.note (.completed step tool value)).results = (tool, value) :: s.results := rfl

end Session

namespace Engine
open Execution

/-- One thing that an engine does to a session. -/
inductive Move (engine : Engine σ) : Session σ → Session σ → Prop
  | notes {s : Session σ} {entry : Entry} : entry.result? = none → Move engine s (s.note entry)
  | acts (s : Session σ) (world : σ) : Move engine s { s with world }
  | completes {s learned : Session σ} (step : Step) {value : Value} :
    (engine.route? step.tool).isSome = true →
    learn engine.learning step.tool value s = .ok learned →
    Move engine s (learned.note (.completed step.id step.tool value))

/-- What an engine does to a session, one thing after the other. -/
abbrev Moves (engine : Engine σ) : Session σ → Session σ → Prop :=
  Relation.ReflTransGen engine.Move

/-! ### What moves keep -/

/-- About each tool the schema of its latest result has been learned, if it has one, and nothing
about the engine's own tools. Only known tools have results. -/
structure Learned (engine : Engine σ) (s : Session σ) : Prop where
  schemas : ∀ tool, (s.learned.lookup tool).map Except.ok =
    if engine.isBuiltin tool then none else (s.latest? tool).map Schema.infer
  known : ∀ tool, engine.route? tool = none → s.latest? tool = none

variable {engine : Engine σ} {s t : Session σ}

theorem Learned.of_opening (engine : Engine σ) (world : σ) {noted : List Entry}
    (silent : ∀ entry ∈ noted, entry.result? = none) :
    engine.Learned (.opening world noted) := by
  have empty : (Session.opening world noted).results = [] := by
    simpa [Session.results, Session.opening, List.filterMap_eq_nil_iff] using silent
  have latest (tool : String) : (Session.opening world noted).latest? tool = none := by
    rw [Session.latest?, empty, List.lookup_nil]
  refine ⟨fun tool => ?_, fun tool _ => latest tool⟩
  rw [latest]
  split <;> rfl

/-- What a step learns replaces the schema of its tool, unless this is one of the engine's own. -/
theorem learn_ok {tool : String} {value : Value}
    (success : learn engine.learning tool value s = .ok t) :
    t.results = s.results ∧ ∀ other, (t.learned.lookup other).map Except.ok =
      if other = tool ∧ engine.isBuiltin tool = false then some (Schema.infer value)
      else (s.learned.lookup other).map Except.ok := by
  cases own : engine.isBuiltin tool with
  | true =>
    rw [learn_of_isBuiltin own] at success
    cases success
    simp
  | false =>
    rw [learn_of_foreign own] at success
    obtain ⟨schema, inferred, rfl⟩ := Success.map_ok success
    refine ⟨rfl, fun other => ?_⟩
    change ((Entries.put tool schema s.learned).lookup other).map Except.ok = _
    rw [Entries.lookup_put, inferred]
    by_cases same : other = tool <;> simp [same]

theorem Move.learned (move : engine.Move s t) (learned : engine.Learned s) : engine.Learned t := by
  cases move with
  | notes silent =>
    have latest (tool : String) := congrArg (List.lookup tool)
      (Session.results_note_of_none s silent)
    refine ⟨fun tool => ?_, fun tool unknown => ?_⟩
    · rw [Session.latest?, latest]
      exact learned.schemas tool
    · rw [Session.latest?, latest]
      exact learned.known tool unknown
  | acts => exact ⟨learned.schemas, learned.known⟩
  | @completes between step value routed success =>
    obtain ⟨results, schemas⟩ := learn_ok success
    have latest (tool : String) : (between.note (.completed step.id step.tool value)).latest? tool =
        if tool = step.tool then some value else s.latest? tool := by
      rw [Session.latest?, Session.results_note_completed, results, List.lookup_cons]
      by_cases same : tool = step.tool
      · simp [same]
      · simp [same, beq_eq_false_iff_ne.2 same, Session.latest?]
    refine ⟨fun tool => ?_, fun tool unknown => ?_⟩
    · change (between.learned.lookup tool).map Except.ok = _
      rw [schemas, learned.schemas, latest]
      by_cases same : tool = step.tool
      · subst same
        cases engine.isBuiltin step.tool <;> simp
      · simp [same]
    · rw [latest, if_neg, learned.known tool unknown]
      rintro rfl
      rw [unknown] at routed
      cases routed

theorem Moves.learned (moves : engine.Moves s t) (learned : engine.Learned s) :
    engine.Learned t := by
  induction moves with
  | refl => exact learned
  | tail _ move ih => exact move.learned ih

/-! ### What an engine does -/

/-- Invocations are moves, and unknown tools answer that they are unknown. -/
structure Serves (engine : Engine σ) (caller : Caller σ) (invoke : Invoker σ) : Prop where
  moves : ∀ name args s, engine.Moves s (invoke name args caller s).2
  unknown : ∀ name args s, engine.route? name = none →
    (invoke name args caller s).1 = .ok (.dict [("error", .str (notFoundText name))])

variable {caller : Caller σ} {invoke : Invoker σ}

theorem settle_moves (step : Step) (raw : Value) (s : Session σ)
    (routed : (engine.route? step.tool).isSome = true) :
    engine.Moves s (settle engine.learning step raw s).2 := by
  unfold settle
  cases Envelope.fault? engine.learning.room raw with
  | some e => exact .refl
  | none =>
  cases Envelope.read raw with
  | error message => exact .single (.notes rfl)
  | ok value =>
    dsimp only
    cases learned : learn engine.learning step.tool value s with
    | error unreadable => exact .single (.notes rfl)
    | ok t => exact .single (.completes step routed learned)

theorem failWith_moves (step : Step) (thrown : Thrown) (s : Session σ) :
    engine.Moves s (failWith step thrown s).2 := by
  obtain ⟨_, _, same⟩ | ⟨_, _, same⟩ := failWith_cases step thrown s
  · rw [same]
    exact .single (.notes rfl)
  · rw [same]

theorem executeStep_moves (serves : engine.Serves caller invoke) (outputs : Outputs)
    (producers : List (String × String)) (step : Step) (s : Session σ) :
    engine.Moves s (executeStep engine.learning invoke outputs producers caller step s).2 := by
  cases resolved : Template.resolveEntries outputs step.args with
  | error e =>
    simp only [executeStep, resolved]
    exact .single (.notes rfl)
  | ok args =>
    rw [executeStep_of_resolved resolved]
    have invoked := serves.moves step.tool (.dict args) (s.note (.invoking step.tool step.id))
    refine Relation.ReflTransGen.trans (.head (.notes rfl) invoked) ?_
    cases route : engine.route? step.tool with
    | none =>
      rw [serves.unknown _ _ _ route]
      simp only [conclude, settle, fault?_notFound, read_notFound]
      exact .single (.notes rfl)
    | some target =>
      cases (invoke step.tool (.dict args) caller (s.note (.invoking step.tool step.id))).1 with
      | error thrown => exact failWith_moves step thrown _
      | ok raw => exact settle_moves step raw _ (by rw [route]; rfl)

theorem failWith_results (step : Step) (thrown : Thrown) (s : Session σ) :
    (failWith step thrown s).2.results =
      ((failWith step thrown s).1.toOption.map (step.tool, ·)).toList ++ s.results := by
  obtain ⟨_, _, same⟩ | ⟨_, _, same⟩ := failWith_cases step thrown s
  · rw [same]
    exact Session.results_note_of_none s rfl
  · rw [same]
    rfl

theorem settle_results (step : Step) (raw : Value) (s : Session σ) :
    (settle engine.learning step raw s).2.results =
      ((settle engine.learning step raw s).1.toOption.map (step.tool, ·)).toList ++ s.results := by
  unfold settle
  cases Envelope.fault? engine.learning.room raw with
  | some e => rfl
  | none =>
  cases Envelope.read raw with
  | error message => exact Session.results_note_of_none s rfl
  | ok value =>
    dsimp only
    cases learned : learn engine.learning step.tool value s with
    | error unreadable => exact Session.results_note_of_none s rfl
    | ok t =>
      rw [Session.results_note_completed, (learn_ok learned).1]
      rfl

/-- A step adds a result to those that its tool left exactly where it succeeds, and then it is what
the step stores. -/
theorem executeStep_results (invoke : Invoker σ) {outputs : Outputs}
    (producers : List (String × String)) (caller : Caller σ) {step : Step} (s : Session σ)
    {args : List (String × Value)}
    (resolved : Template.resolveEntries outputs step.args = .ok args) :
    let called := (invoke step.tool (.dict args) caller (s.note (.invoking step.tool step.id))).2
    let (result, after) := executeStep engine.learning invoke outputs producers caller step s
    after.results = (result.toOption.map (step.tool, ·)).toList ++ called.results := by
  dsimp only
  rw [executeStep_of_resolved resolved]
  cases (invoke step.tool (.dict args) caller (s.note (.invoking step.tool step.id))).1 with
  | error thrown => exact failWith_results step thrown _
  | ok raw => exact settle_results step raw _

/-- A step whose arguments do not resolve adds no result. -/
theorem executeStep_results_of_unresolved (invoke : Invoker σ) {outputs : Outputs}
    (producers : List (String × String)) (caller : Caller σ) {step : Step} (s : Session σ)
    {e : ResolveError} (unresolved : Template.resolveEntries outputs step.args = .error e) :
    (executeStep engine.learning invoke outputs producers caller step s).2.results = s.results := by
  simp only [executeStep, unresolved]
  exact Session.results_note_of_none s rfl

theorem startNext_moves (steps : List Step) (p : Progress) (s : Session σ) :
    engine.Moves s (Phase.startNext caller steps p s).2.2 := by
  cases steps with
  | nil => exact .refl
  | cons step rest =>
    cases stop : caller.canceled s.world with
    | true =>
      simp only [Phase.startNext, stop, if_true]
      exact .single (.notes rfl)
    | false =>
      simp only [Phase.startNext, stop, Bool.false_eq_true, if_false]
      exact .refl

theorem pull_moves (serves : engine.Serves caller invoke) (phase : Phase) (s : Session σ) :
    engine.Moves s (Phase.pull (executeStep engine.learning invoke) caller phase s).2.2 := by
  match phase with
  | .submitted (.error (.raised cause)) => exact .refl
  | .submitted (.error .noSteps) => exact .single (.notes rfl)
  | .submitted (.error (.invalid problems)) => exact .single (.notes rfl)
  | .submitted (.ok program) => exact .head (.notes rfl) (startNext_moves ..)
  | .before steps p => exact startNext_moves ..
  | .started step rest p =>
    have moves := executeStep_moves serves p.outputs p.producers step s
    rcases result : executeStep engine.learning invoke p.outputs p.producers caller step s
      with ⟨answer, after⟩
    rw [result] at moves
    cases answer <;> simpa only [Phase.pull, result] using moves
  | .failed step message p => exact .refl
  | .closed => exact .refl

theorem take_moves (serves : engine.Serves caller invoke) (n : Nat) (phase : Phase)
    (s : Session σ) :
    engine.Moves s (Phase.take (executeStep engine.learning invoke) caller n phase s).2.2 := by
  induction n generalizing phase s with
  | zero => exact .refl
  | succ n ih =>
    have moves := pull_moves serves phase s
    unfold Phase.take
    split
    next next after pulled => simpa only [pulled] using moves
    next notice next after pulled =>
      rw [pulled] at moves
      exact moves.trans (ih next after)

/-- A completed run does what its drained events do. -/
theorem complete_moves (serves : engine.Serves caller invoke) (reading : Reading) (s : Session σ) :
    engine.Moves s (Run.complete (executeStep engine.learning invoke) reading caller s).2 := by
  have drained := congrArg Prod.snd
    (Phase.drain_submitted (executeStep engine.learning invoke) caller reading s)
  change engine.Moves s (Run.course (executeStep engine.learning invoke) reading caller s).2
  rw [← drained]
  exact take_moves serves ..

theorem invokeWith_serves {nested : Nested σ}
    (inner : ∀ reading s, engine.Moves s (nested reading caller s).2) :
    engine.Serves caller (engine.invokeWith nested) := by
  refine ⟨fun name args s => ?_, fun name args s unknown => by simp only [invokeWith, unknown]⟩
  cases found : engine.delegation? name args with
  | some d =>
    rw [invokeWith_of_delegation nested caller s found]
    exact .tail (.single (.notes rfl)) (.acts ..)
  | none =>
    obtain route | route | route := route?_of_not_delegated found
    · simp only [invokeWith, route]
      exact .single (.notes rfl)
    · simp only [invokeWith, route]
      exact .refl
    · rw [invokeWith_of_runProgram nested args caller s route]
      exact inner (Program.read args) s

/-- Invocations are moves however deep runs may still nest. -/
theorem invokeAt_serves (engine : Engine σ) (caller : Caller σ) (depth : Nat) :
    engine.Serves caller (engine.invokeAt depth) := by
  induction depth with
  | zero => exact invokeWith_serves fun _ _ => .refl
  | succ depth ih =>
    refine invokeWith_serves fun reading s => ?_
    have moves := complete_moves ih reading s
    rcases ran : Run.complete (executeStep engine.learning (engine.invokeAt depth)) reading caller s
      with ⟨answer, after⟩
    rw [ran] at moves
    cases answer <;> simpa only [nestedBy, ran] using moves

theorem invoke_serves (engine : Engine σ) (caller : Caller σ) :
    engine.Serves caller engine.invoke :=
  invokeAt_serves engine caller engine.limits.runs

end Engine
end Workflow
