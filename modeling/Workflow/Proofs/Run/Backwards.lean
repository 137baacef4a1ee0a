import Workflow.Proofs.Run.Boundary
import Workflow.Proofs.Run.Cancellation
import Workflow.Proofs.Template.Placeholders

/-!
Data flows backwards. A step whose arguments hold a placeholder that does not name one of the steps
before it ends the run: its arguments never resolve, since the run has stored outputs of the steps
before it only. `Ahead` is what every pull keeps: the run has not got past that step. So it makes no
difference how the step and those after it would call tools.
-/
namespace Workflow
open Execution

variable {σ : Type}

namespace Execution

/-- A step with a dangling placeholder fails before any call, however it would call its tool. -/
theorem executeStep_of_dangling {ids : List String} {outputs : Outputs} {step : Step}
    (dangling : Template.Dangling ids (.dict step.args)) (known : Entries.keys outputs ⊆ ids) :
    ∃ e, ∀ (learning : Learning) (invoke : Invoker σ) (producers : List (String × String))
      (caller : Caller σ) (s : Session σ),
      executeStep learning invoke outputs producers caller step s =
        fail step (unresolvedText learning s.learned producers step e) s := by
  obtain ⟨e, unresolved⟩ := Template.resolve_of_dangling dangling known
  rw [Template.resolve] at unresolved
  cases entries : Template.resolveEntries outputs step.args with
  | error cause => exact ⟨cause, fun _ _ _ _ _ => by simp only [executeStep, entries]⟩
  | ok args =>
    rw [entries] at unresolved
    cases unresolved

end Execution

/-- Executes steps as the engine does, except that some of them call tools in another way. -/
def Engine.diverting (engine : Engine σ) (ids : List String) (other : Invoker σ) : Executor σ :=
  fun outputs producers caller step s =>
    executeStep engine.learning (if step.id ∈ ids then other else engine.invoke) outputs producers
      caller step s

/-- The run has not got past a step, and what it has stored comes from the steps before. -/
inductive Ahead (earlier : List Step) (step : Step) (later : List Step) : Phase → Prop
  | submitted {program : Program} : program.steps = earlier ++ step :: later →
    Ahead earlier step later (.submitted (.ok program))
  | before {done rest : List Step} {p : Progress} : earlier = done ++ rest →
    Entries.keys p.outputs ⊆ done.map Step.id →
    Ahead earlier step later (.before (rest ++ step :: later) p)
  | started {done rest : List Step} {next : Step} {p : Progress} : earlier = done ++ next :: rest →
    Entries.keys p.outputs ⊆ done.map Step.id →
    Ahead earlier step later (.started next (rest ++ step :: later) p)
  | reached {p : Progress} : Entries.keys p.outputs ⊆ earlier.map Step.id →
    Ahead earlier step later (.started step later p)
  | failed {next : Step} {message : String} {p : Progress} :
    Ahead earlier step later (.failed next message p)
  | closed : Ahead earlier step later .closed

namespace Ahead

variable {earlier later : List Step} {step : Step} {caller : Caller σ}

/-- Starting the next step stays ahead, and is no success. -/
theorem startNext {done rest : List Step} {p : Progress} (split : earlier = done ++ rest)
    (known : Entries.keys p.outputs ⊆ done.map Step.id) (s : Session σ) :
    Ahead earlier step later (Phase.startNext caller (rest ++ step :: later) p s).2.1 ∧
      ∀ value outputs, (Phase.startNext caller (rest ++ step :: later) p s).1 ≠
        some (.ended ⟨.success value, outputs⟩) := by
  cases rest with
  | nil =>
    rw [List.append_nil] at split
    subst split
    unfold Phase.startNext
    dsimp only [List.nil_append]
    split
    · exact ⟨.closed, by simp⟩
    · exact ⟨.reached known, by simp⟩
  | cons next rest =>
    unfold Phase.startNext
    dsimp only [List.cons_append]
    split
    · exact ⟨.closed, by simp⟩
    · exact ⟨.started split known, by simp⟩

/-- A pull stays ahead and tells no success, however the step and those after it would call
tools. -/
theorem pull {engine : Engine σ} {phase : Phase} (ahead : Ahead earlier step later phase)
    (dangling : Template.Dangling (earlier.map Step.id) (.dict step.args))
    (distinct : ((earlier ++ step :: later).map Step.id).Nodup) (other : Invoker σ)
    (s : Session σ) :
    Phase.pull (engine.diverting ((step :: later).map Step.id) other) caller phase s =
        Phase.pull engine.execute caller phase s ∧
      Ahead earlier step later (Phase.pull engine.execute caller phase s).2.1 ∧
      ∀ value outputs, (Phase.pull engine.execute caller phase s).1 ≠
        some (.ended ⟨.success value, outputs⟩) := by
  cases ahead with
  | @submitted program split =>
    simp only [Phase.pull, split, true_and]
    exact startNext (List.nil_append earlier).symm (List.nil_subset _) _
  | before split known => exact ⟨rfl, startNext split known s⟩
  | @started done rest next p split known =>
    -- Ids are distinct, so a step before the dangling one calls its tool as ever.
    have outside : next.id ∉ (step :: later).map Step.id := by
      intro inside
      rw [List.map_append, List.nodup_append] at distinct
      exact distinct.2.2 next.id (by simp [split]) next.id inside rfl
    have same : engine.diverting ((step :: later).map Step.id) other p.outputs p.producers caller
        next s = engine.execute p.outputs p.producers caller next s := by
      simp only [Engine.diverting, outside, if_false, Engine.execute]
    refine ⟨by simp only [Phase.pull, same], ?_⟩
    rcases result : engine.execute p.outputs p.producers caller next s with ⟨answer, after⟩
    cases answer with
    | error halt =>
      simp only [Phase.pull, result]
      cases halt with
      | failed message => exact ⟨.failed, by simp [Halt.notice]⟩
      | raised cause => exact ⟨.closed, by simp [Halt.notice]⟩
    | ok value =>
      have split' : earlier = (done ++ [next]) ++ rest := by simp [split]
      have known' : Entries.keys (p.store next value).outputs ⊆ (done ++ [next]).map Step.id := by
        intro id member
        simp only [Progress.store, Entries.keys_put] at member
        grind
      simp only [Phase.pull, result]
      exact ⟨.before split' known', by simp⟩
  | @reached p known =>
    -- The arguments do not resolve, which ends the step before any invoker is asked.
    obtain ⟨e, failed⟩ := executeStep_of_dangling dangling known
    have real : engine.execute p.outputs p.producers caller step s =
        fail step (unresolvedText engine.learning s.learned p.producers step e) s := failed ..
    have diverted : engine.diverting ((step :: later).map Step.id) other p.outputs p.producers
        caller step s =
          fail step (unresolvedText engine.learning s.learned p.producers step e) s := failed ..
    simp only [Phase.pull, real, diverted, fail, true_and]
    exact ⟨.failed, by simp [Halt.notice]⟩
  | failed => exact ⟨rfl, .closed, by simp [Phase.pull]⟩
  | closed => exact ⟨rfl, .closed, by simp [Phase.pull]⟩

/-- What holds of a pull holds of all of them. -/
theorem takeAmid {engine : Engine σ} {interim : Interim σ} {phase : Phase}
    (ahead : Ahead earlier step later phase)
    (dangling : Template.Dangling (earlier.map Step.id) (.dict step.args))
    (distinct : ((earlier ++ step :: later).map Step.id).Nodup) (other : Invoker σ)
    (n k : Nat) (s : Session σ) :
    Phase.takeAmid (engine.diverting ((step :: later).map Step.id) other) caller interim n k
          phase s =
        Phase.takeAmid engine.execute caller interim n k phase s ∧
      ∀ value outputs, .ended ⟨.success value, outputs⟩ ∉
        (Phase.takeAmid engine.execute caller interim n k phase s).1 := by
  induction n generalizing k phase s with
  | zero => exact ⟨rfl, by simp [Phase.takeAmid]⟩
  | succ n ih =>
    obtain ⟨same, next, unended⟩ := ahead.pull dangling distinct other s
    rcases pulled : Phase.pull engine.execute caller phase s with ⟨notice?, phase', after⟩
    rw [pulled] at same next unended
    cases notice? with
    | none =>
      simp only [Phase.takeAmid, pulled, same, true_and]
      simp
    | some notice =>
      obtain ⟨rest, unended'⟩ := ih next (k + 1) (interim k after)
      rw [Phase.takeAmid_of_pull n k same, Phase.takeAmid_of_pull n k pulled, rest]
      refine ⟨rfl, fun value outputs => ?_⟩
      rw [List.mem_cons, not_or]
      exact ⟨fun first => unended value outputs (congrArg some first.symm), unended' value outputs⟩

end Ahead

namespace Run

/-- A step with a placeholder that does not name one of the steps before it stops the run: no tool
is called for it or for a later step, the run is no success, and if it gets that far and is not
cancelled, it fails at this step with the outputs of those before. A run has no outcome at all if an
exception leaves one of its steps. -/
theorem dangling_stops_run (engine : Engine σ) (caller : Caller σ) (interim : Interim σ)
    (raw : Value) (s : Session σ) (program : Program) (accepted : Program.read raw = .ok program)
    (earlier later : List Step) (step : Step) (split : program.steps = earlier ++ step :: later)
    (dangling : Template.Dangling (earlier.map Step.id) (.dict step.args)) :
    (∀ other : Invoker σ,
      Phase.drainAmid (engine.diverting ((step :: later).map Step.id) other) caller interim
          (.submitted (Program.read raw)) s =
        Phase.drainAmid engine.execute caller interim (.submitted (Program.read raw)) s) ∧
    ((∃ events outcome after, Observed engine caller interim raw s events outcome after ∧
        ∀ value, outcome.ending ≠ .success value) ∨
      ∃ events cause after, Interrupted engine caller interim raw s events cause after ∧
        LeavesStep engine caller raw cause) ∧
    ∀ done p t, done.map Prod.fst = earlier →
      Completed engine.learning engine.invoke caller interim 0 .initial
        (s.note (.running program.steps.length)) done p t →
      caller.canceled t.world = false → ∃ message after,
        Observed engine caller interim raw s
          ((stages done).map Event.status ++
            [.status (.started step), .status (.failed step message),
              .result (.dict [("error", .str message), ("failedStep", .str step.id)]) false])
          ⟨.failed message (some step.id), stored done⟩ after := by
  obtain ⟨_, distinct⟩ := Program.read_wellFormed accepted
  rw [split] at distinct
  have ahead : Ahead earlier step later (.submitted (Program.read raw)) := by
    rw [accepted]
    exact .submitted split
  refine ⟨fun other => (ahead.takeAmid dangling distinct other _ 0 s).1, ?_, ?_⟩
  · obtain ⟨events, outcome, after, observed⟩ | interrupted := observed_or_interrupted engine caller
      interim raw s (by simp [accepted, Decided])
    · refine .inl ⟨events, outcome, after, observed, fun value ended => ?_⟩
      obtain ⟨statuses, drained, _⟩ := observed
      have told : .ended ⟨.success value, outcome.outputs⟩ ∈ (Phase.drainAmid engine.execute caller
          interim (.submitted (Program.read raw)) s).1 := by
        rw [drained, ← ended]
        simp
      exact (ahead.takeAmid dangling distinct engine.invoke _ 0 s).2 _ _ told
    · exact .inr interrupted
  · rintro done p t rfl completed unset
    have outputs : p.outputs = stored done := by
      rw [List.map_append, List.map_map] at distinct
      exact completed.outputs_eq (List.nodup_append.1 distinct).1
    have known : Entries.keys p.outputs ⊆ (done.map Prod.fst).map Step.id := by
      rw [outputs, stored, Entries.keys, List.map_map, List.map_map]
      exact List.Subset.refl _
    obtain ⟨message, after, failed⟩ : ∃ message after,
        executeStep engine.learning engine.invoke p.outputs p.producers caller step
          (interim (2 * done.length) t) = (.error (.failed message), after) := by
      obtain ⟨e, failed⟩ := executeStep_of_dangling dangling known
      exact ⟨_, _, failed ..⟩
    have drained := completed.drainAmid_of_halted split unset failed
    rw [← accepted, outputs] at drained
    have observed := observed_of_drainAmid drained
    rw [List.map_append, List.append_assoc] at observed
    exact ⟨message, _, observed⟩

/-- A step that names a later one stops the run after the step before it. -/
theorem dangling_stops_forward_reference :
    let raw : Value := .list [.dict [("id", .str "a"), ("tool", .str "t")],
      .dict [("id", .str "b"), ("tool", .str "t"),
        ("args", .dict [("x", .list [.str "see \x7b\x7b c.v \x7d\x7d"])])],
      .dict [("id", .str "c"), ("tool", .str "t")]]
    let first : Step := ⟨"a", "t", [], none, none⟩
    let second : Step := ⟨"b", "t", [("x", .list [.str "see \x7b\x7b c.v \x7d\x7d"])], none, none⟩
    let third : Step := ⟨"c", "t", [], none, none⟩
    let engine : Engine Unit :=
      ⟨.standard, [("t", .single ⟨"t", "", []⟩ fun _ _ w => (.ok (.int 1), w))], ⟨0, 8⟩⟩
    let caller : Caller Unit := ⟨.null, fun _ => false⟩
    let s : Session Unit := .opening () []
    Program.read raw = .ok ⟨[first, second, third]⟩ ∧
      Template.Dangling ["a"] (.dict second.args) ∧
      ∃ message after, Observed engine caller .idle raw s
        [.status (.started first), .status (.completed first), .status (.started second),
          .status (.failed second message),
          .result (.dict [("error", .str message), ("failedStep", .str "b")]) false]
        ⟨.failed message (some "b"), [("a", .int 1)]⟩ after := by
  intro raw first second third engine caller s
  have accepted : Program.read raw = .ok ⟨[first, second, third]⟩ := rfl
  have dangling : Template.Dangling ["a"] (.dict second.args) := by
    refine ⟨"see \x7b\x7b c.v \x7d\x7d", "see ".toList, " c.v ".toList, [],
      .entry (List.mem_singleton.2 rfl) (.item (List.mem_singleton.2 rfl) .here), rfl, ?_, ?_⟩
    · intro c member
      have plain : (" c.v ".toList.all fun c => !Piece.isBrace c) = true := rfl
      simpa using List.all_eq_true.1 plain c member
    · rintro ⟨path, parsed, member⟩
      have named : Path.parse (Text.trim (String.ofList " c.v ".toList)) =
          .ok ⟨"c", [.key "v"]⟩ := rfl
      rw [named, Except.ok.injEq] at parsed
      subst parsed
      simp at member
  have completed : ∃ p t, caller.canceled t.world = false ∧
      Completed engine.learning engine.invoke caller .idle 0 .initial (s.note (.running 3))
        [(first, .int 1)] p t :=
    ⟨_, _, rfl, .next rfl ⟨[], rfl, rfl⟩ rfl (.none _ _ _)⟩
  obtain ⟨p, t, unset, completed⟩ := completed
  have stopped := dangling_stops_run engine caller .idle raw s _ accepted [first] [third] second rfl
    dangling
  exact ⟨accepted, dangling, stopped.2.2 _ p t rfl completed unset⟩

end Run
end Workflow
