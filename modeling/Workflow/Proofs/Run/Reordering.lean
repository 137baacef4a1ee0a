import Workflow.Proofs.Program.Reordered
import Workflow.Proofs.Run.Abreast
import Workflow.Proofs.Template.Named

/-!
The order of independent steps. When a run has succeeded, each step is grounded in the outputs that
are left at the end: its arguments resolve against them, and its tool gives for these arguments what
they hold for the step. Since outputs are never replaced, this says nothing about when the step was
executed, and steps that are grounded in some store reach it in every order in which no step comes
before one that its placeholders name.
-/
namespace Workflow
open Execution

variable {σ : Type}

/-- The placeholders of each step name steps that are known or come before it. -/
def Program.NamesBack (known : List String) : List Step → Prop
  | [] => True
  | step :: rest =>
    (∀ id, Template.Names (.dict step.args) id → id ∈ known) ∧ NamesBack (step.id :: known) rest

namespace Engine

/-- A step has in a store what its tool gives in quiet worlds for arguments from this store. -/
def Grounded (engine : Engine σ) (caller : Caller σ) (quiet : σ → Prop) (store : Outputs)
    (step : Step) : Prop :=
  ∃ args d raw value,
    Template.resolveEntries store step.args = .ok args ∧
    engine.delegation? step.tool (.dict args) = some d ∧
    (∀ world, quiet world → (d.action d.given caller.context world).1 = .ok raw) ∧
    Envelope.fault? engine.limits.texts raw = none ∧ Envelope.read raw = .ok value ∧
    (∃ schema, Schema.infer value = .ok schema) ∧ store.lookup step.id = some value

/-- The call that a step makes with arguments from a store. -/
def callFrom (engine : Engine σ) (context : Value) (store : Outputs) (step : Step) :
    Option Entry :=
  match Template.resolveEntries store step.args with
  | .error _ => none
  | .ok args => (engine.delegation? step.tool (.dict args)).map fun d => d.entry context

variable {engine : Engine σ} {caller : Caller σ} {quiet : σ → Prop} {store outputs : Outputs}
  {step : Step} {s after : Session σ}

/-- Entries resolve in the same way against stores that agree on what they name. -/
theorem resolveEntries_of_agree {entries : List (String × Value)} {outputs' : Outputs}
    (agree : Template.Agree (.dict entries) outputs outputs') :
    Template.resolveEntries outputs entries = Template.resolveEntries outputs' entries :=
  Template.resolveEntries_congr entries fun _ _ member =>
    agree.of_holds fun _ => .entry member

theorem learn_of_infer (engine : Engine σ) (tool : String) {value : Value} {schema : Schema}
    (s : Session σ) (inferred : Schema.infer value = .ok schema) :
    ∃ t, learn engine.learning tool value s = .ok t := by
  cases own : engine.isBuiltin tool with
  | true => exact ⟨s, learn_of_isBuiltin own value s⟩
  | false =>
    rw [learn_of_foreign own, inferred]
    exact ⟨_, rfl⟩

/-- A grounded step succeeds wherever the outputs agree with the store on what it names, and makes
the call that it makes with arguments from the store. -/
theorem executeStep_of_grounded (grounded : engine.Grounded caller quiet store step)
    (agree : Template.Agree (.dict step.args) outputs store)
    (producers : List (String × String)) (start : quiet s.world) :
    ∃ value after trace,
      store.lookup step.id = some value ∧
      engine.execute outputs producers caller step s = (.ok value, after) ∧
      engine.Works caller.context s trace after ∧
      trace.calls.map Prod.fst = (engine.callFrom caller.context store step).toList := by
  obtain ⟨args, d, raw, value, resolved, found, answers, sound, read, ⟨schema, inferred⟩, held⟩ :=
    grounded
  have resolved' : Template.resolveEntries outputs step.args = .ok args := by
    rw [resolveEntries_of_agree agree, resolved]
  have invoked := invoke_of_delegation caller (s.note (.invoking step.tool step.id)) found
  have answered : (engine.invoke step.tool (.dict args) caller
      (s.note (.invoking step.tool step.id))).1 = .ok raw := by
    rw [invoked]
    exact answers s.world start
  obtain ⟨t, learned⟩ := learn_of_infer engine step.tool
    (engine.invoke step.tool (.dict args) caller (s.note (.invoking step.tool step.id))).2 inferred
  have settled := (settle_ok_iff engine.learning step raw value _ _).2
    ⟨sound, read, t, learned, rfl⟩
  obtain ⟨last, work, silent⟩ := settle_works engine caller.context step raw
    (engine.invoke step.tool (.dict args) caller (s.note (.invoking step.tool step.id))).2
  have result : engine.execute outputs producers caller step s =
      (.ok value, t.note (.completed step.id step.tool value)) := by
    rw [execute, executeStep_of_resolved resolved', answered]
    exact settled
  have call : engine.callFrom caller.context store step = some (d.entry caller.context) := by
    simp only [callFrom, resolved, found, Option.map_some]
  rw [settled, invoked] at work
  refine ⟨value, _, (.invoking step.tool step.id, s.world) ::
    (d.entry caller.context, s.world) :: last, held, result, .notes rfl (.calls found work), ?_⟩
  rw [call, Trace.calls_cons_of_note _ _ rfl, ← List.singleton_append, Trace.calls_append, silent]
  rfl

/-- A step that has succeeded is grounded in every store that keeps the outputs it was executed with
and holds its result. -/
theorem grounded_of_executeStep (repeats : engine.Repeats caller quiet)
    (delegated : engine.Delegates step.tool) {producers : List (String × String)} {value : Value}
    (start : quiet s.world)
    (success : engine.execute outputs producers caller step s = (.ok value, after))
    (kept : ∀ id value, outputs.lookup id = some value → store.lookup id = some value)
    (held : store.lookup step.id = some value) :
    engine.Grounded caller quiet store step ∧ Template.Agree (.dict step.args) outputs store := by
  obtain ⟨raw, called, ⟨args, resolved, invoked⟩, settled⟩ := executeStep_ok success
  have whole : Template.resolve outputs (.dict step.args) = .ok (.dict args) := by
    rw [Template.resolve, resolved]
    rfl
  have agree : Template.Agree (.dict step.args) outputs store := by
    intro id named
    obtain ⟨value, stored⟩ := Entries.mem_keys_iff.1 (Template.mem_keys_of_resolve whole named)
    rw [stored, kept id value stored]
  obtain ⟨d, found⟩ := delegated.delegation? (.dict args)
  rw [invoke_of_delegation caller _ found] at invoked
  have answered : (d.action d.given caller.context s.world).1 = .ok raw := congrArg Prod.fst invoked
  obtain ⟨sound, read, t, learned, _⟩ := (settle_ok_iff ..).1 settled
  refine ⟨⟨args, d, raw, value, ?_, found, fun world still => ?_, sound, read, ?_, held⟩, agree⟩
  · rw [← resolveEntries_of_agree agree, resolved]
  · rw [repeats.answers _ _ d world s.world found still start, answered]
  · rw [learn_of_foreign delegated.isBuiltin] at learned
    obtain ⟨schema, inferred, _⟩ := Success.map_ok learned
    exact ⟨schema, inferred⟩

end Engine

namespace Run
open Engine

variable {engine : Engine σ} {caller : Caller σ} {quiet : σ → Prop}

theorem lookup_store (p : Progress) (step : Step) (value : Value) (id : String) :
    (p.store step value).outputs.lookup id =
      if id = step.id then some value else p.outputs.lookup id :=
  Entries.lookup_put step.id id value p.outputs

/-- After a success every step is grounded in the final outputs, which keep all earlier ones, and
the run has made the calls that the steps make with arguments from there. -/
theorem grounded_of_steps (repeats : engine.Repeats caller quiet) (left : List Step) (p : Progress)
    (s : Session σ) (value : Value) (outputs : Outputs)
    (delegated : ∀ step ∈ left, engine.Delegates step.tool)
    (fresh : (Entries.keys p.outputs ++ left.map Step.id).Nodup) (start : quiet s.world)
    (success : (steps engine.execute caller left p s).1.closing = .ok ⟨.success value, outputs⟩) :
    (∀ id, id ∉ left.map Step.id → outputs.lookup id = p.outputs.lookup id) ∧
    (∀ step ∈ left, engine.Grounded caller quiet outputs step) ∧
    ∃ trace, engine.Works caller.context s trace (steps engine.execute caller left p s).2 ∧
      trace.calls.map Prod.fst = left.filterMap (engine.callFrom caller.context outputs) := by
  induction left generalizing p s with
  | nil =>
    cases success
    exact ⟨fun _ _ => rfl, by simp, [], .idle s, rfl⟩
  | cons step rest ih =>
    have unset := repeats.unset s.world start
    rcases result : engine.execute p.outputs p.producers caller step s with ⟨answer, between⟩
    cases answer with
    | error halt =>
      rw [steps_of_halted rest unset result] at success
      cases halt <;> cases success
    | ok stored =>
      rw [steps_of_completed rest unset result] at success ⊢
      have outside : step.id ∉ rest.map Step.id :=
        (List.nodup_cons.1 (List.nodup_append.1 fresh).2.1).1
      obtain ⟨_, first, _⟩ := executeStep_works (engine.invoke_heeds caller) p.outputs p.producers
        step s
      rw [← Engine.execute, result] at first
      obtain ⟨unchanged, grounded, later, work, calls⟩ := ih (p.store step stored) between
        (fun other member => delegated other (List.mem_cons_of_mem step member))
        (Progress.fresh_store stored fresh)
        (first.world_of_preserved quiet repeats.keeps start) success
      have frame (id : String) (other : id ∉ (step :: rest).map Step.id) :
          outputs.lookup id = p.outputs.lookup id := by
        rw [List.map_cons, List.mem_cons, not_or] at other
        rw [unchanged id other.2, lookup_store, if_neg other.1]
      have held : outputs.lookup step.id = some stored := by
        rw [unchanged step.id outside, lookup_store, if_pos rfl]
      have kept (id : String) (value : Value) (found : p.outputs.lookup id = some value) :
          outputs.lookup id = some value := by
        rw [frame id, found]
        intro member
        exact (List.nodup_append.1 fresh).2.2 id (Entries.mem_keys_iff.2 ⟨value, found⟩) id member
          rfl
      obtain ⟨here, agree⟩ :=
        grounded_of_executeStep repeats (delegated step (by simp)) start result kept held
      obtain ⟨value', after', trace, _, same, work', call⟩ := executeStep_of_grounded here agree
        p.producers start
      rw [result] at same
      cases same
      refine ⟨frame, ?_, trace ++ later, work'.trans work, ?_⟩
      · intro other member
        rcases List.mem_cons.1 member with rfl | member
        · exact here
        · exact grounded other member
      · rw [Trace.calls_append, List.map_append, call, calls, List.filterMap_cons]
        cases engine.callFrom caller.context outputs step <;> rfl

/-- Steps that are grounded in a store reach it in every order in which they name earlier ones. -/
theorem steps_of_grounded (repeats : engine.Repeats caller quiet) (store : Outputs)
    (left : List Step) (known : List String) (p : Progress) (s : Session σ)
    (back : Program.NamesBack known left)
    (grounded : ∀ step ∈ left, engine.Grounded caller quiet store step)
    (holds : ∀ id ∈ known, p.outputs.lookup id = store.lookup id) (start : quiet s.world) :
    ∃ statuses value outputs after trace,
      steps engine.execute caller left p s = (⟨statuses, .ok ⟨.success value, outputs⟩⟩, after) ∧
      (∀ id, outputs.lookup id =
        if id ∈ left.map Step.id then store.lookup id else p.outputs.lookup id) ∧
      engine.Works caller.context s trace after ∧
      trace.calls.map Prod.fst = left.filterMap (engine.callFrom caller.context store) := by
  induction left generalizing known p s with
  | nil => exact ⟨[], p.value, p.outputs, s, [], rfl, by simp, .idle s, rfl⟩
  | cons step rest ih =>
    obtain ⟨value, between, trace, held, executed, work, call⟩ :=
      executeStep_of_grounded (grounded step (by simp)) (fun id named => holds id (back.1 id named))
        p.producers start
    have looked (id : String) : (p.store step value).outputs.lookup id =
        if id = step.id then store.lookup id else p.outputs.lookup id := by
      rw [lookup_store]
      by_cases same : id = step.id
      · rw [if_pos same, if_pos same, same, held]
      · rw [if_neg same, if_neg same]
    obtain ⟨statuses, last, outputs, after, later, ran, found, work', calls⟩ :=
      ih (step.id :: known) (p.store step value) between back.2
        (fun other member => grounded other (List.mem_cons_of_mem step member))
        (fun id member => by
          rw [looked]
          split
          · rfl
          · exact holds id ((List.mem_cons.1 member).resolve_left ‹_›))
        (work.world_of_preserved quiet repeats.keeps start)
    have whole := steps_of_completed rest (repeats.unset s.world start) executed
    rw [ran] at whole
    refine ⟨_, last, outputs, after, trace ++ later, whole, fun id => ?_, work.trans work', ?_⟩
    · rw [found, looked]
      by_cases inside : id ∈ rest.map Step.id <;> simp [inside]
    · rw [Trace.calls_append, List.map_append, call, calls, List.filterMap_cons]
      cases engine.callFrom caller.context store step <;> rfl

/-- The entries of the calls in a trace are the calls since it began. -/
theorem filter_isCall_since {context : Value} {s t : Session σ} {trace : Trace σ}
    (work : engine.Works context s trace t) :
    (s.since t).filter Entry.isCall = trace.calls.map Prod.fst := by
  rw [work.since_eq, List.filter_map]
  rfl

/-- Where tools depend on their arguments only, the steps of a successful program can be put in any
order in which each still comes after those that it names: the program succeeds with the same
outputs and the same calls, up to their order. -/
theorem independent_of_order (engine : Engine σ) (caller : Caller σ) (quiet : σ → Prop)
    (raw : Value) (program : Program) (s s' : Session σ) (repeats : engine.Repeats caller quiet)
    (start : quiet s.world) (start' : quiet s'.world) (accepted : Program.read raw = .ok program)
    (delegated : ∀ step ∈ program.steps, engine.Delegates step.tool)
    (statuses : List StatusEvent) (value : Value) (outputs : Outputs) (after : Session σ)
    (succeeded : engine.run raw caller s = (.ok ⟨statuses, ⟨.success value, outputs⟩⟩, after))
    (reordered : List Step) (perm : reordered.Perm program.steps)
    (back : Program.NamesBack [] reordered) :
    (∃ raw', Program.read raw' = .ok ⟨reordered⟩) ∧
    ∀ raw', Program.read raw' = .ok ⟨reordered⟩ → ∃ statuses' value' outputs' after',
      engine.run raw' caller s' = (.ok ⟨statuses', ⟨.success value', outputs'⟩⟩, after') ∧
      (∀ id, outputs'.lookup id = outputs.lookup id) ∧
      ((s'.since after').filter Entry.isCall).Perm ((s.since after).filter Entry.isCall) := by
  refine ⟨Program.exists_read_of_perm accepted perm, fun raw' accepted' => ?_⟩
  simp only [Engine.run, accepted, accepted', complete_ok_iff, course] at succeeded ⊢
  obtain ⟨_, distinct⟩ := Program.read_wellFormed accepted
  obtain ⟨frame, grounded, trace, work, calls⟩ := grounded_of_steps repeats program.steps .initial
    (s.note (.running program.steps.length)) value outputs delegated
    (by simpa [Progress.initial, Entries.keys] using distinct) start
    (congrArg (fun ran => ran.1.closing) succeeded)
  rw [succeeded] at work
  obtain ⟨statuses', value', outputs', after', trace', ran, found, work', calls'⟩ :=
    steps_of_grounded repeats outputs reordered [] .initial (s'.note (.running reordered.length))
      back (fun step member => grounded step (perm.mem_iff.1 member)) (by simp) start'
  refine ⟨statuses', value', outputs', after', ran, fun id => ?_, ?_⟩
  · rw [found]
    split
    · rfl
    next other => rw [frame id fun member => other ((perm.map Step.id).mem_iff.2 member)]
  · rw [filter_isCall_since (.notes rfl work'), filter_isCall_since (.notes rfl work),
      Trace.calls_cons_of_note _ _ rfl, Trace.calls_cons_of_note _ _ rfl, calls, calls']
    exact perm.filterMap _

/-- Two steps change places before one that names the first. -/
theorem independent_of_order_three :
    let first : Step := ⟨"a", "t", [("x", .int 1)], none, none⟩
    let second : Step := ⟨"b", "t", [], none, none⟩
    let third : Step := ⟨"c", "t", [("y", .str "\x7b\x7ba.x\x7d\x7d")], none, none⟩
    let raw : Value := .list [
      .dict [("id", .str "a"), ("tool", .str "t"), ("args", .dict [("x", .int 1)])],
      .dict [("id", .str "b"), ("tool", .str "t")],
      .dict [("id", .str "c"), ("tool", .str "t"),
        ("args", .dict [("y", .str "\x7b\x7ba.x\x7d\x7d")])]]
    let engine : Engine Unit :=
      ⟨.standard, [("t", .single ⟨"t", "", []⟩ fun args _ w => (.ok args, w))], ⟨1, 8⟩⟩
    let caller : Caller Unit := ⟨.null, fun _ => false⟩
    let s : Session Unit := .opening () []
    let outputs : Outputs :=
      [("a", .dict [("x", .int 1)]), ("b", .dict []), ("c", .dict [("y", .int 1)])]
    Program.read raw = .ok ⟨[first, second, third]⟩ ∧
      [second, first, third].Perm [first, second, third] ∧
      Program.NamesBack [] [second, first, third] ∧
      ∀ raw', Program.read raw' = .ok ⟨[second, first, third]⟩ →
        ∃ statuses' value' outputs' after',
          engine.run raw' caller s = (.ok ⟨statuses', ⟨.success value', outputs'⟩⟩, after') ∧
          ∀ id, outputs'.lookup id = outputs.lookup id := by
  intro first second third raw engine caller s outputs
  have accepted : Program.read raw = .ok ⟨[first, second, third]⟩ := rfl
  have perm : [second, first, third].Perm [first, second, third] := .swap ..
  have back : Program.NamesBack [] [second, first, third] := by
    simp only [Program.NamesBack, ← Template.mem_namedSteps_iff]
    decide
  have installed : engine.Delegates "t" := ⟨_, rfl, rfl⟩
  have repeats : engine.Repeats caller fun _ => True :=
    ⟨fun _ _ _ _ _ _ _ _ => rfl, fun _ _ _ _ _ _ => trivial, fun _ _ => rfl⟩
  obtain ⟨_, _, succeeded⟩ : ∃ statuses after,
      engine.run raw caller s =
        (.ok ⟨statuses, ⟨.success (.dict [("y", .int 1)]), outputs⟩⟩, after) := ⟨_, _, rfl⟩
  refine ⟨accepted, perm, back, fun raw' accepted' => ?_⟩
  obtain ⟨_, _, _, _, ran, same, _⟩ := (independent_of_order engine caller (fun _ => True) raw _ s s
    repeats trivial trivial accepted (by simp [first, second, third, installed]) _ _ outputs _
    succeeded _ perm back).2 raw' accepted'
  exact ⟨_, _, _, _, ran, same⟩

end Run
end Workflow
