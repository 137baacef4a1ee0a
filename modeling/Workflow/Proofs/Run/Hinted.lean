import Workflow.Proofs.Engine.Installed
import Workflow.Proofs.Engine.Learned
import Workflow.Proofs.Execution.Atomic
import Workflow.Proofs.Run.Abreast
import Workflow.Proofs.Run.Cancellation

/-!
Schema hints. A step whose arguments do not resolve fails with the text of the error, and where the
error is about an output, with the schema of what the tool behind this output stored latest. The
completed steps of a run, the tools noted for them and what the engine has learned stay in step, so
the schema is there whenever the output is one of a foreign tool.
-/
namespace Workflow

variable {σ : Type}

namespace Engine
open Execution

variable {engine : Engine σ} {s t : Session σ}

/-! ### What stays learned -/

theorem Move.lookup_isSome (move : engine.Move s t) (tool : String)
    (known : (s.learned.lookup tool).isSome = true) : (t.learned.lookup tool).isSome = true := by
  cases move with
  | notes => exact known
  | acts => exact known
  | @completes between step value routed success =>
    have held := congrArg Option.isSome ((learn_ok success).2 tool)
    rw [Option.isSome_map] at held
    change (between.learned.lookup tool).isSome = true
    rw [held]
    split
    · rfl
    · rwa [Option.isSome_map]

theorem Moves.knows (moves : engine.Moves s t) {p : Progress} (knows : engine.Knows p s) :
    engine.Knows p t := by
  induction moves with
  | refl => exact knows
  | tail _ move ih =>
    exact fun id tool produced foreign => move.lookup_isSome tool (ih id tool produced foreign)

end Engine

namespace Run
open Execution Engine

/-! ### Hints -/

/-- An expression names a completed step, which a tool has carried out. -/
def Names (done : List (Step × Value)) (expression tool : String) : Prop :=
  ∃ path step raw, Path.parse expression = .ok path ∧ (step, raw) ∈ done ∧ step.id = path.step ∧
    step.tool = tool

/-- What is said behind an error, once some steps of the run are completed: of an expression that
names one of them, the schema of what its tool stored latest, unless the tool is one of the engine's
own. About all else nothing is said. -/
inductive Hints (engine : Engine σ) (done : List (Step × Value)) (now : Session σ) :
    ResolveError → String → Prop
  | schema {e : ResolutionError} {tool : String} {value : Value} {schema : Schema} :
    Names done e.expression tool → engine.isBuiltin tool = false →
    now.latest? tool = some value → Schema.infer value = .ok schema →
    Hints engine done now (.unresolved e) s!" Expected schema for \"{tool}\": {schema.text}"
  | silent {e : ResolutionError} :
    (∀ tool, Names done e.expression tool → engine.isBuiltin tool = true) →
    Hints engine done now (.unresolved e) ""
  | other {err : ResolveError} : (∀ e, err ≠ .unresolved e) → Hints engine done now err ""

/-- The tools of completed steps. -/
def producers (done : List (Step × Value)) : List (String × String) :=
  done.map fun entry => (entry.1.id, entry.1.tool)

theorem keys_producers (done : List (Step × Value)) :
    Entries.keys (producers done) = done.map (·.1.id) := by
  simp [producers, Entries.keys]

variable {engine : Engine σ} {done : List (Step × Value)} {now : Session σ} {p : Progress}

/-- The tool that a hint is about is that of the completed step which the expression names. -/
theorem producer?_eq_some_iff (tools : p.producers = producers done)
    (distinct : (done.map (·.1.id)).Nodup) {outputs : Outputs} {expression : String}
    {e : ResolutionError} (failed : lookup expression outputs = .error (.unresolved e))
    (tool : String) : producer? p.producers e = some tool ↔ Names done e.expression tool := by
  obtain ⟨_, ⟨fault, refused, malformed⟩ | ⟨path, parsed, proper⟩⟩ :=
    Path.unresolved_of_lookup failed
  · have nothing : producer? p.producers e = none := by
      unfold producer?
      rw [malformed]
    constructor
    · intro found
      rw [nothing] at found
      cases found
    · rintro ⟨path, _, _, parsed, _⟩
      rw [refused] at parsed
      cases parsed
  · have looked : producer? p.producers e = p.producers.lookup path.step := by
      unfold producer?
      rw [parsed]
      cases reported : e.cause with
      | malformed fault => exact absurd reported (proper fault)
      | _ => rfl
    rw [looked, tools]
    constructor
    · intro found
      obtain ⟨⟨step, raw⟩, member, same⟩ := List.mem_map.1 (Entries.mem_of_lookup found)
      obtain ⟨named, rfl⟩ := Prod.mk.inj same
      exact ⟨path, step, raw, parsed, member, named, rfl⟩
    · rintro ⟨path', step, raw, parsed', member, named, rfl⟩
      obtain rfl := Except.ok.inj (parsed.symm.trans parsed')
      rw [← keys_producers] at distinct
      rw [← named]
      exact Entries.lookup_of_mem distinct (List.mem_map.2 ⟨_, member, rfl⟩)

/-- The hint of an error is the right one if the engine knows the tools of the completed steps. -/
theorem hints_schemaHint (learned : engine.Learned now) (knows : engine.Knows p now)
    (tools : p.producers = producers done) (distinct : (done.map (·.1.id)).Nodup)
    {outputs : Outputs} {expression : String} {e : ResolutionError}
    (failed : lookup expression outputs = .error (.unresolved e)) :
    Hints engine done now (.unresolved e) (schemaHint now.learned p.producers e) := by
  have names_iff := producer?_eq_some_iff tools distinct failed
  rw [schemaHint_eq]
  cases producer : producer? p.producers e with
  | none =>
    refine .silent fun tool names => ?_
    rw [(names_iff tool).2 names] at producer
    cases producer
  | some tool =>
    have schemas := learned.schemas tool
    cases own : engine.isBuiltin tool with
    | true =>
      rw [own, if_pos rfl, Option.map_eq_none_iff] at schemas
      simp only [schemas, Option.elim]
      refine .silent fun other names => ?_
      obtain rfl := Option.some.inj (producer.symm.trans ((names_iff other).2 names))
      exact own
    | false =>
      obtain ⟨id, produced⟩ := lookup_of_producer? producer
      obtain ⟨schema, held⟩ := Option.isSome_iff_exists.1 (knows id tool produced own)
      rw [held, own, if_neg Bool.false_ne_true] at schemas
      obtain ⟨value, latest, inferred⟩ := Option.map_eq_some_iff.1 schemas.symm
      simp only [held, Option.elim]
      exact .schema ((names_iff tool).1 producer) own latest inferred

/-- The text of a failed resolution is that of the error with the right hint. -/
theorem exists_hint (learned : engine.Learned now) (knows : engine.Knows p now)
    (tools : p.producers = producers done) (distinct : (done.map (·.1.id)).Nodup)
    {outputs : Outputs} (step : Step) {err : ResolveError}
    (failed : Template.resolveEntries outputs step.args = .error err) :
    ∃ hint, Hints engine done now err hint ∧
      unresolvedText engine.learning now.learned p.producers step err =
        s!"Failed to resolve variables for step \"{step.id}\": " ++ err.description ++ hint := by
  cases err with
  | unresolved e =>
    obtain ⟨expression, _, looked⟩ := Template.exists_comesTo outputs failed
    exact ⟨_, hints_schemaHint learned knows tools distinct looked, rfl⟩
  | numeral cause => exact ⟨"", .other nofun, rfl⟩
  | uncopyable message => exact ⟨"", .other nofun, rfl⟩
  | unreadable cause => exact ⟨"", .other nofun, rfl⟩
  | untold cause => exact ⟨"", .other nofun, rfl⟩

/-! ### Completed steps -/

variable {caller : Caller σ} {invoke : Invoker σ} {interim : Interim σ}

/-- The tools grow by one entry for each completed step, in their order. -/
theorem Completed.producers_eq {learning : Learning} {k : Nat} {p q : Progress} {s t : Session σ}
    (completed : Completed learning invoke caller interim k p s done q t)
    (fresh : (Entries.keys p.producers ++ done.map (·.1.id)).Nodup) :
    q.producers = p.producers ++ producers done := by
  induction completed with
  | none k p s => simp [producers]
  | @next k p q s called after t step raw done _ _ _ _ ih =>
    rw [List.map_cons] at fresh
    have put : (p.store step (Envelope.unwrap raw)).producers =
        p.producers ++ [(step.id, step.tool)] :=
      Entries.put_of_not_mem _ _ _ fun held =>
        (List.nodup_append.1 fresh).2.2 step.id held step.id (by simp) rfl
    rw [ih, put]
    · simp [producers, List.append_assoc]
    · rw [put]
      simpa [Entries.keys, List.append_assoc] using fresh

/-- Completed steps are moves of the engine, after which it knows the tools of all of them. -/
theorem Completed.moves {k : Nat} {p q : Progress} {s t : Session σ}
    (completed : Completed engine.learning invoke caller interim k p s done q t)
    (serves : engine.Serves caller invoke) (heeds : engine.Heeds caller invoke)
    (between : ∀ k s, engine.Moves s (interim k s)) (knows : engine.Knows p s) :
    engine.Moves s t ∧ engine.Knows q t := by
  induction completed with
  | none k p s => exact ⟨.refl, knows⟩
  | @next k p q s called after t step raw done _ answers settled _ ih =>
    have executed : executeStep engine.learning invoke p.outputs p.producers caller step
        (interim k s) = (.ok (Envelope.unwrap raw), after) :=
      (executeStep_of_answers answers).trans settled
    have moves := executeStep_moves serves p.outputs p.producers step (interim k s)
    rw [executed] at moves
    have known := knows_store heeds (Moves.knows (between k s) knows) executed
    obtain ⟨later, known⟩ := ih (Moves.knows (between (k + 1) after) known)
    exact ⟨(between k s).trans (moves.trans ((between (k + 1) after).trans later)), known⟩

/-- A step whose arguments do not resolve fails with the text of the error and the right hint, in a
run at any depth, on an installed engine whose history its own work alone has written, whatever it
does between the pulls. An error about an expression is that of the first placeholder that names
nothing, and it can be told what the expression names, if it is a path at all. -/
theorem resolution_failure_hinted {settings : Settings} {limits : Limits}
    {registrations : List (Registration σ)} {engine : Engine σ} {noted : List Entry}
    (installed : Engine.install settings limits registrations = .ok (engine, noted))
    {world : σ} {s : Session σ} (history : engine.Moves (.opening world noted) s)
    {caller : Caller σ} {interim : Interim σ} (between : ∀ k s, engine.Moves s (interim k s))
    (depth : Nat)
    {raw : Value} {program : Program} (accepted : Program.read raw = .ok program)
    {done : List (Step × Value)} {rest : List Step} {step : Step}
    (split : program.steps = done.map Prod.fst ++ step :: rest) {p : Progress} {t : Session σ}
    (completed : Completed engine.learning (engine.invokeAt depth) caller interim 0 .initial
      (s.note (.running program.steps.length)) done p t)
    {err : ResolveError} (failed : Template.resolveEntries (stored done) step.args = .error err) :
    (∀ e, err = .unresolved e → e.Traceable ∧ ∃ expression,
      Template.ComesTo (stored done) (.dict step.args) expression ∧
        lookup expression (stored done) = .error err ∧ e.expression = Text.trim expression) ∧
    ∃ hint, Hints engine done (interim (2 * done.length) t) err hint ∧
      let execute := executeStep engine.learning (engine.invokeAt depth)
      let message :=
        s!"Failed to resolve variables for step \"{step.id}\": " ++ err.description ++ hint
      execute p.outputs p.producers caller step (interim (2 * done.length) t) =
          fail step message (interim (2 * done.length) t) ∧
        (caller.canceled t.world = false → ∃ after,
          Phase.drainAmid execute caller interim (.submitted (Program.read raw)) s =
            ((stages done ++ [StatusEvent.started step, .failed step message]).map Notice.status ++
              [.ended ⟨.failed message (some step.id), stored done⟩], .closed, after)) := by
  constructor
  · rintro e rfl
    obtain ⟨expression, comes, looked⟩ := Template.exists_comesTo _ failed
    exact ⟨traceable_of_lookup looked, expression, comes, looked,
      (Path.unresolved_of_lookup looked).1⟩
  · obtain ⟨_, distinct⟩ := Program.read_wellFormed accepted
    rw [split, List.map_append, List.map_map] at distinct
    have ids : (done.map (·.1.id)).Nodup := (List.nodup_append.1 distinct).1
    have outputs : p.outputs = stored done := completed.outputs_eq ids
    have tools : p.producers = producers done := completed.producers_eq ids
    obtain ⟨moves, knows⟩ := completed.moves (engine.invokeAt_serves caller depth)
      (engine.invokeAt_heeds caller depth) between (knows_initial _)
    have onward := between (2 * done.length) t
    have whole : engine.Moves (.opening world noted) (interim (2 * done.length) t) :=
      (history.tail (.notes rfl)).trans (moves.trans onward)
    have learned : engine.Learned (interim (2 * done.length) t) :=
      whole.learned (.of_opening engine world (install_wellFormed installed).2)
    obtain ⟨hint, hints, text⟩ :=
      exists_hint learned (Moves.knows onward knows) tools ids step failed
    have executed : executeStep engine.learning (engine.invokeAt depth) p.outputs p.producers caller
        step (interim (2 * done.length) t) = fail step
          (s!"Failed to resolve variables for step \"{step.id}\": " ++ err.description ++ hint)
          (interim (2 * done.length) t) := by
      rw [executeStep, outputs, failed, ← text]
    refine ⟨hint, hints, executed, fun unset => ?_⟩
    have drained := completed.drainAmid_of_halted split unset executed
    rw [← accepted, outputs] at drained
    exact ⟨_, by simpa [Halt.course, Course.notices, Notice.ofClosing] using drained⟩

/-- The second step misses a property of what the first one stored. -/
theorem resolution_failure_hinted_missing_property :
    let registrations : List (Registration Unit) :=
      [.single [("name", .str "t")] fun _ _ w => (.ok (.dict [("n", .int 1)]), w)]
    let raw : Value := .list [.dict [("id", .str "a"), ("tool", .str "t")],
      .dict [("id", .str "b"), ("tool", .str "t"),
        ("args", .dict [("x", .str "\x7b\x7ba.m\x7d\x7d")])]]
    let first : Step := ⟨"a", "t", [], none, none⟩
    let second : Step := ⟨"b", "t", [("x", .str "\x7b\x7ba.m\x7d\x7d")], none, none⟩
    let caller : Caller Unit := ⟨.null, fun _ => false⟩
    let message := "Failed to resolve variables for step \"b\": \x7b\x7ba.m\x7d\x7d: " ++
      "property \"m\" not found on a. Available keys and types: \x7b\"n\":\"number\"\x7d " ++
      "Expected schema for \"t\": \x7b\"n\":\"number\"\x7d"
    ∃ engine noted, Engine.install .standard ⟨8, 8⟩ registrations = .ok (engine, noted) ∧ ∃ after,
      Phase.drainAmid engine.execute caller .idle (.submitted (Program.read raw))
          (.opening () noted) =
        ([.status (.started first), .status (.completed first), .status (.started second),
          .status (.failed second message), .ended ⟨.failed message (some "b"),
            [("a", .dict [("n", .int 1)])]⟩], .closed, after) := by
  intro registrations raw first second caller message
  obtain ⟨engine, noted, installed⟩ : ∃ engine noted,
      Engine.install .standard ⟨8, 8⟩ registrations = .ok (engine, noted) := ⟨_, _, rfl⟩
  have accepted : Program.read raw = .ok ⟨[first, second]⟩ := rfl
  have completed : ∃ p t, caller.canceled t.world = false ∧
      (executeStep engine.learning (engine.invokeAt engine.limits.runs) p.outputs p.producers
        caller second t).1 = .error (.failed message) ∧
      Completed engine.learning (engine.invokeAt engine.limits.runs) caller .idle 0 .initial
        ((Session.opening () noted).note (.running 2))
        [(first, .dict [("n", .int 1)])] p t := by
    cases installed
    exact ⟨_, _, rfl, rfl, .next rfl ⟨[], rfl, rfl⟩ rfl (.none _ _ _)⟩
  obtain ⟨p, t, unset, text, completed⟩ := completed
  have failed : Template.resolveEntries (stored [(first, .dict [("n", .int 1)])]) second.args =
      .error (.unresolved ⟨"a.m", .missingProperty "m" "a" (.object [("n", .leaf "number")])⟩) :=
    rfl
  have split : [first, second] =
      [(first, Value.dict [("n", .int 1)])].map Prod.fst ++ [second] := rfl
  obtain ⟨_, hint, _, executed, drained⟩ := resolution_failure_hinted installed .refl
    (fun _ _ => .refl) engine.limits.runs accepted split completed failed
  obtain ⟨after, drained⟩ := drained unset
  have same := Halt.failed.inj (Except.error.inj ((congrArg Prod.fst executed).symm.trans text))
  rw [same] at drained
  exact ⟨engine, noted, installed, after, drained⟩

end Run
end Workflow
