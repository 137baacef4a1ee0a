import Mathlib.Data.List.Forall2
import Workflow.Proofs.Engine.Installed
import Workflow.Proofs.Engine.Learned
import Workflow.Proofs.Terminal.Shown

/-!
How a host uses an engine over time: it runs programs, drains requests, and opens any number of
streams, which it pulls in any order and may close early. Whatever it has done, the schema that a
tool is described with is that of what the tool's latest successful step stored.
-/
namespace Workflow

/-- One thing that a host does. Streams are numbered in the order in which they are opened. -/
inductive Operation (σ : Type) where
  | runs (program : Value) (caller : Caller σ)
  | drains (request : Request) (caller : Caller σ)
  | opens (request : Request) (caller : Caller σ)
  | pulls (stream : Nat)
  | closes (stream : Nat)
  /-- The world changes by itself: a signal is set, or a tool finds something new. -/
  | elapses (change : σ → σ)

/-- A session and the streams that are open in it, each with the one who opened it. -/
structure Usage (σ : Type) where
  session : Session σ
  streams : List (Request × Caller σ)

variable {σ : Type}

namespace Usage

def perform (engine : Engine σ) (usage : Usage σ) : Operation σ → Usage σ
  | .runs program caller => { usage with session := (engine.run program caller usage.session).2 }
  | .drains request caller =>
    { usage with session := (request.finish engine caller usage.session).2 }
  | .opens request caller => { usage with streams := usage.streams ++ [(request, caller)] }
  | .pulls stream =>
    match usage.streams[stream]? with
    | none => usage
    | some (request, caller) =>
      let (_, request, session) := request.pull engine caller usage.session
      ⟨session, usage.streams.set stream (request, caller)⟩
  | .closes stream =>
    match usage.streams[stream]? with
    | none => usage
    | some (_, caller) =>
      { usage with streams := usage.streams.set stream (.closed, caller) }
  | .elapses change =>
    { usage with session := { usage.session with world := change usage.session.world } }

/-- What one operation after the other makes of a session. -/
def after (engine : Engine σ) (s : Session σ) (operations : List (Operation σ)) : Usage σ :=
  operations.foldl (perform engine) ⟨s, []⟩

end Usage

/-! ### Operations are moves -/

namespace Request

variable {engine : Engine σ}

theorem pull_moves (caller : Caller σ) (request : Request) (s : Session σ) :
    engine.Moves s (request.pull engine caller s).2.2 := by
  cases request with
  | describe names => exact .refl
  | unknown name => exact .single (.notes rfl)
  | run phase =>
    have moves := Engine.pull_moves (engine.invoke_serves caller) phase s
    rcases pulled : phase.pull engine.execute caller s with ⟨notice?, next, after⟩
    rw [← Engine.execute, pulled] at moves
    cases notice? <;> simpa only [pull, pulled] using moves

theorem finish_moves (caller : Caller σ) (request : Request) (s : Session σ) :
    engine.Moves s (request.finish engine caller s).2 := by
  cases request with
  | describe names => exact .refl
  | unknown name => exact .single (.notes rfl)
  | run phase => exact Engine.take_moves (engine.invoke_serves caller) ..

end Request

namespace Usage

theorem perform_moves (engine : Engine σ) (usage : Usage σ) (operation : Operation σ) :
    engine.Moves usage.session (usage.perform engine operation).session := by
  cases operation with
  | runs program caller => exact Engine.complete_moves (engine.invoke_serves caller) ..
  | drains request caller => exact Request.finish_moves ..
  | opens request caller => exact .refl
  | pulls stream =>
    unfold perform
    dsimp only
    split
    · exact .refl
    · exact Request.pull_moves ..
  | closes stream =>
    unfold perform
    dsimp only
    split
    · exact .refl
    · exact .refl
  | elapses change => exact .single (.acts ..)

theorem after_moves (engine : Engine σ) (s : Session σ) (operations : List (Operation σ)) :
    engine.Moves s (after engine s operations).session := by
  have folded (usage : Usage σ) :
      engine.Moves usage.session (operations.foldl (perform engine) usage).session := by
    induction operations generalizing usage with
    | nil => exact .refl
    | cons operation rest ih => exact (perform_moves engine usage operation).trans (ih _)
  exact folded ⟨s, []⟩

end Usage

/-! ### Descriptions -/

/-- What an answer about tools says about one name: an error if it is not that of a delegated tool,
and the schema that has been learned about it. -/
structure Engine.Tells (engine : Engine σ) (s : Session σ) (name : String) (entry : Value) :
    Prop where
  named : entry.field? "name" = some (.str name)
  error_iff : (entry.field? "error").isSome = true ↔ ¬engine.Delegates name
  schema : entry.field? "result_schema" = (s.learned.lookup name).map Schema.toValue
  schema_iff : engine.isBuiltin name = false →
    ((entry.field? "result_schema").isSome = true ↔ (s.latest? name).isSome = true)

namespace Engine

variable {engine : Engine σ} {s : Session σ}

theorem delegates_iff (engine : Engine σ) (name : String) :
    engine.Delegates name ↔ ∃ spec, (engine.route? name).bind Route.spec? = some spec := by
  constructor
  · rintro ⟨route, found, foreign⟩
    rw [found]
    cases route with
    | describeTools => cases foreign
    | runProgram => cases foreign
    | single spec action => exact ⟨spec, rfl⟩
    | member label spec action => exact ⟨spec, rfl⟩
  · rintro ⟨spec, declared⟩
    obtain ⟨route, found, held⟩ := Option.bind_eq_some_iff.1 declared
    refine ⟨route, found, ?_⟩
    cases route with
    | describeTools => cases held
    | runProgram => cases held
    | single spec action => rfl
    | member label spec action => rfl

theorem Learned.isSome_iff (learned : engine.Learned s) {tool : String}
    (foreign : engine.isBuiltin tool = false) :
    (s.learned.lookup tool).isSome = true ↔ (s.latest? tool).isSome = true := by
  have known := congrArg Option.isSome (learned.schemas tool)
  rw [foreign, if_neg Bool.false_ne_true, Option.isSome_map, Option.isSome_map] at known
  rw [known]

/-- Nothing is learned about a name that steps cannot delegate to. -/
theorem Learned.lookup_of_not_delegates (learned : engine.Learned s) {tool : String}
    (other : ¬engine.Delegates tool) : s.learned.lookup tool = none := by
  have known := learned.schemas tool
  cases found : engine.route? tool with
  | none =>
    rw [learned.known tool found] at known
    simpa using known
  | some route =>
    have own : engine.isBuiltin tool = true := by
      cases builtin : route.isBuiltin with
      | true => simp [isBuiltin, found, builtin]
      | false => exact absurd ⟨route, found, builtin⟩ other
    simpa [own] using known

theorem tells_describe (formed : engine.WellFormed) (learned : engine.Learned s) (name : String) :
    engine.Tells s name ((engine.catalogue s.learned).describe name).payload := by
  cases held : (engine.route? name).bind Route.spec? with
  | none =>
    have other : ¬engine.Delegates name := by
      rw [delegates_iff, held]
      rintro ⟨_, ⟨⟩⟩
    have described : ((engine.catalogue s.learned).describe name).payload =
        .dict [("name", .str name), ("error", .str (notFoundText name))] := by
      rw [formed.describe_of_undeclared s.learned held]
      rfl
    rw [described]
    have nothing := learned.lookup_of_not_delegates other
    refine ⟨rfl, ?_, by rw [nothing]; rfl, fun foreign => ?_⟩
    · simp [Value.field?_dict, List.lookup_cons, other]
    rw [← learned.isSome_iff foreign, nothing]
    rfl
  | some spec =>
    have delegated : engine.Delegates name := (delegates_iff ..).2 ⟨spec, held⟩
    have described : ((engine.catalogue s.learned).describe name).payload =
        .dict ([("name", .str name), ("description", .str spec.description),
          ("parameters", .dict (Descriptor.shownEntries spec.parameters))] ++
          ((s.learned.lookup name).map fun schema =>
            ("result_schema", schema.toValue)).toList) := by
      rw [formed.describe_of_declared s.learned held]
      cases s.learned.lookup name with
      | none => rfl
      | some schema => simp [Descriptor.payload, Descriptor.resultEntry_toValue]
    have schema : Value.field? "result_schema"
        ((engine.catalogue s.learned).describe name).payload =
          (s.learned.lookup name).map Schema.toValue := by
      rw [described]
      cases s.learned.lookup name <;> rfl
    refine ⟨by rw [described]; rfl, ?_, schema, fun foreign => ?_⟩
    · rw [described, Value.field?_dict]
      cases s.learned.lookup name <;> simp [List.lookup_cons, delegated]
    · rw [schema, Option.isSome_map]
      exact learned.isSome_iff foreign

end Engine

namespace Host

/-- Whatever a host has done with an installed engine, what has been learned about each tool is the
schema of what its latest successful step stored, and nothing about the engine's own tools; and an
answer about tools has one entry for each name asked for, which tells this. That a step is the
latest successful one is read off the results in the journal: `Engine.executeStep_results`. -/
theorem learned_from_latest (settings : Settings) (limits : Limits)
    (registrations : List (Registration σ)) (engine : Engine σ) (noted : List Entry) (world : σ)
    (operations : List (Operation σ))
    (installed : Engine.install settings limits registrations = .ok (engine, noted)) :
    let s := (Usage.after engine (.opening world noted) operations).session
    (∀ tool, engine.isBuiltin tool = true ↔
      tool = Engine.describeName engine.settings ∨ tool = Engine.runName engine.settings) ∧
    (∀ tool, engine.isBuiltin tool = true →
      (engine.catalogue s.learned).schemaFor? tool = none) ∧
    (∀ tool, engine.isBuiltin tool = false →
      ((engine.catalogue s.learned).schemaFor? tool).map Except.ok =
        (s.latest? tool).map Schema.infer) ∧
    ∀ names texts, names.mapM Value.text = .ok texts → ∃ entries,
      engine.describeTools (.list names) s = .ok (.dict [("tools_info", .list entries)]) ∧
      List.Forall₂ (engine.Tells s) texts entries := by
  intro s
  obtain ⟨formed, silent⟩ := Engine.install_wellFormed installed
  have learned : engine.Learned s :=
    (Usage.after_moves engine _ operations).learned (.of_opening engine world silent)
  refine ⟨formed.isBuiltin_iff, fun tool own => ?_, fun tool foreign => ?_, fun names texts told =>
    ⟨_, Catalogue.answer_of_texts _ told, ?_⟩⟩
  · simpa [own, Catalogue.schemaFor?, Engine.catalogue] using learned.schemas tool
  · simpa [foreign, Catalogue.schemaFor?, Engine.catalogue] using learned.schemas tool
  · rw [List.forall₂_map_right_iff, List.forall₂_same]
    exact fun name _ => Engine.tells_describe formed learned name

/-- A stream that is closed early leaves the schema of the step that it has completed. -/
theorem learned_from_latest_closed :
    let registrations : List (Registration Unit) :=
      [.single [("name", .str "t")] fun _ _ w => (.ok (.int 1), w)]
    let caller : Caller Unit := ⟨.null, fun _ => false⟩
    let program : Value := .list [.dict [("id", .str "a"), ("tool", .str "t")],
      .dict [("id", .str "b"), ("tool", .str "t")]]
    let operations : List (Operation Unit) :=
      [.opens (.ofProgram program) caller, .pulls 0, .pulls 0, .closes 0, .pulls 0]
    ∃ engine noted, Engine.install .standard ⟨8, 8⟩ registrations = .ok (engine, noted) ∧
      let s := (Usage.after engine (.opening () noted) operations).session
      s.results = [("t", .int 1)] ∧
        (engine.catalogue s.learned).schemaFor? "t" = some (.leaf "number") ∧
        ∃ entry, engine.describeTools (.list [.str "t"]) s =
            .ok (.dict [("tools_info", .list [entry])]) ∧ engine.Tells s "t" entry := by
  intro registrations caller program operations
  obtain ⟨engine, noted, installed⟩ : ∃ engine noted,
      Engine.install .standard ⟨8, 8⟩ registrations = .ok (engine, noted) := ⟨_, _, rfl⟩
  obtain ⟨_, _, schemas, described⟩ :=
    learned_from_latest .standard ⟨8, 8⟩ registrations engine noted () operations installed
  have foreign : engine.isBuiltin "t" = false := by
    cases installed
    rfl
  have results : (Usage.after engine (.opening () noted) operations).session.results =
      [("t", .int 1)] := by
    cases installed
    rfl
  have learned := schemas "t" foreign
  rw [Session.latest?, results] at learned
  obtain ⟨schema, held, inferred⟩ := Option.map_eq_some_iff.1 learned
  cases inferred
  obtain ⟨entries, answer, tells⟩ := described [.str "t"] ["t"] rfl
  obtain ⟨entry, rest, told, none, rfl⟩ := List.forall₂_cons_left_iff.1 tells
  rw [List.forall₂_nil_left_iff] at none
  subst none
  exact ⟨engine, noted, installed, results, held, entry, answer, told⟩

end Host
end Workflow
