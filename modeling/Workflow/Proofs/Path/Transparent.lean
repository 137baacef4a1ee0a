import Workflow.Proofs.Envelope.Errors
import Workflow.Proofs.Path.Followed

/-!
A leading `result`. Stored values have lost their envelope, so where a value has no entry of this
name a path with `result` in front reads what the path reads without it, and reports the same where
it fails. Where the value has such an entry the path goes on from it.
-/
namespace Workflow

/-- What an error says behind the expression. -/
def ResolveError.detail : ResolveError → String
  | .unresolved error => error.cause.message
  | .numeral cause => cause.message
  | .uncopyable message => message
  | .unreadable cause => cause.message
  | .untold cause => cause.text

/-- What resolving comes to: the value, or the kind of the failure and what it says. -/
def told {α : Type} (result : Except ResolveError α) : Except (ResolveKind × String) α :=
  result.mapError fun e => (e.kind, e.detail)

theorem told_mapError_ofWalk {α : Type} (expression other : String) (result : Except WalkError α) :
    told (result.mapError (ResolveError.ofWalk expression)) =
      told (result.mapError (ResolveError.ofWalk other)) := by
  cases result with
  | ok value => rfl
  | error e => cases e <;> rfl

namespace Path
open Envelope Execution

/-! ### Paths with `result` in front -/

/-- A path does not begin with a key `result`. -/
def Unprefixed (segments : List Segment) : Prop := ∀ rest, segments ≠ .key "result" :: rest

theorem skipResult_of_unprefixed {segments : List Segment} (start : Value)
    (unprefixed : Unprefixed segments) : skipResult start segments = segments := by
  cases segments with
  | nil => rfl
  | cons segment rest =>
    cases segment with
    | key name =>
      have other : name ≠ "result" := by
        rintro rfl
        exact unprefixed rest rfl
      simp [skipResult, other]
    | dotted => rfl
    | bracket => rfl

variable {outputs : Outputs} {id bare full : String} {start : Value} {segments : List Segment}

theorem lookup_of_unprefixed (stored : outputs.lookup id = some start)
    (unprefixed : Unprefixed segments) (denotes : Denotes bare ⟨id, segments⟩) :
    lookup bare outputs = (walk id start segments).mapError
      (ResolveError.ofWalk (Text.trim bare)) := by
  rw [lookup_of_stored denotes stored, skipResult_of_unprefixed start unprefixed]

/-- A `result` that counts for nothing is left out of the walk and of the place that it reports. -/
theorem lookup_of_no_result (stored : outputs.lookup id = some start)
    (absent : start.field? "result" = none)
    (denotes : Denotes full ⟨id, .key "result" :: segments⟩) :
    lookup full outputs = (walk id start segments).mapError
      (ResolveError.ofWalk (Text.trim full)) := by
  have skipped : skipResult start (.key "result" :: segments) = segments := by
    simp [skipResult, absent]
  rw [lookup_of_stored denotes stored, skipped]

/-- A hop by the name of an entry leads to what it holds. -/
theorem hop_of_field {place name : String} {node inner : Value}
    (held : node.field? name = some inner) : hop place node (.key name) = .ok inner := by
  obtain ⟨entries, shown, found⟩ := Value.exists_of_field held
  cases node with
  | dict _ | keyed _ _ =>
    cases shown
    simp only [hop, Segment.text, found]
  | unreadable message =>
    cases shown
    cases found
  | _ => cases shown

theorem lookup_of_result (stored : outputs.lookup id = some start) {inner : Value}
    (held : start.field? "result" = some inner)
    (denotes : Denotes full ⟨id, .key "result" :: segments⟩) :
    lookup full outputs = (walk (id ++ ".result") inner segments).mapError
      (ResolveError.ofWalk (Text.trim full)) := by
  have kept : skipResult start (.key "result" :: segments) = .key "result" :: segments := by
    simp [skipResult, held]
  rw [lookup_of_stored denotes stored, kept, walk, hop_of_field held]
  rfl

/-! ### Steps that answer in an envelope -/

/-- The content of a `result` envelope: an object without an error and without an envelope of its
own. -/
structure Content (v : Value) : Prop where
  object : v.isObject = true
  sound : ¬ErrorShaped v
  noResult : v.field? "result" = none
  noData : ∀ data, v.field? "data" = some data → data.truthy = false

theorem Content.unwrap_eq {v : Value} (content : Content v) :
    unwrap (.dict [("result", v)]) = v :=
  unwrap_of_object content.object content.noData

theorem Content.read_eq {v : Value} (content : Content v) :
    Envelope.read (.dict [("result", v)]) = .ok v := by
  refine (read_ok_iff _ v).2 ⟨rfl, ?_, content.unwrap_eq.symm⟩
  rw [content.unwrap_eq]
  exact (error?_eq_none_iff v).2 content.sound

/-- Taking the envelope off does not raise. -/
theorem Content.fault?_eq (room : Nat) {v : Value} (content : Content v) :
    Envelope.fault? room (.dict [("result", v)]) = none :=
  fault?_of_result room content.object (fun error => content.sound (.inl error)) content.noData

variable {σ : Type}

/-- A step completes with the content of the envelope that its tool answered with, unless the
content has no schema to learn. -/
theorem Content.executeStep_eq {v : Value} (content : Content v) (learning : Learning)
    {invoke : Invoker σ} {p : Progress} {caller : Caller σ} {step : Step} {s called : Session σ}
    (answers : Answers invoke p.outputs caller step s (.dict [("result", v)]) called) :
    (∃ after, executeStep learning invoke p.outputs p.producers caller step s = (.ok v, after)) ∨
      (∃ cause, Schema.infer v = .error cause) ∧ ∃ message after,
        executeStep learning invoke p.outputs p.producers caller step s =
          (.error (.failed message), after) := by
  rw [executeStep_of_answers answers]
  simp only [settle, Content.fault?_eq _ content, content.read_eq]
  cases learned : learn learning step.tool v called with
  | error cause => exact .inr ⟨⟨cause, (learn_error learned).2.2⟩, _, _, rfl⟩
  | ok t => exact .inl ⟨_, rfl⟩

/-- A `result` in front of a path is transparent where the stored value has no such entry: the
lookup finds the same node, or fails for a cause of the same kind that says the same. Where the
value has this entry, the walk goes on from it. So if the tool of a step answered with a content
under `result`, a path leads to the same node of the content with `result` in front and without
it. -/
theorem leading_result_transparent :
    (∀ (outputs : Outputs) (id : String) (value : Value) (segments : List Segment)
      (bare full : String), outputs.lookup id = some value → Denotes bare ⟨id, segments⟩ →
      Denotes full ⟨id, .key "result" :: segments⟩ →
      (value.field? "result" = none → Unprefixed segments →
        told (lookup full outputs) = told (lookup bare outputs)) ∧
      ∀ inner, value.field? "result" = some inner →
        lookup full outputs = (walk (id ++ ".result") inner segments).mapError
          (ResolveError.ofWalk (Text.trim full))) ∧
    ∀ {σ : Type} (learning : Learning) (invoke : Invoker σ) (p : Progress) (caller : Caller σ)
      (step : Step) (s called : Session σ) (v : Value), Content v →
      Answers invoke p.outputs caller step s (.dict [("result", v)]) called →
      ((∃ after, executeStep learning invoke p.outputs p.producers caller step s = (.ok v, after) ∧
          (p.store step v).outputs.lookup step.id = some v) ∨
        (∃ cause, Schema.infer v = .error cause) ∧ ∃ message after,
          executeStep learning invoke p.outputs p.producers caller step s =
            (.error (.failed message), after)) ∧
      ∀ (outputs : Outputs) (segments : List Segment) (bare full : String),
        outputs.lookup step.id = some v → Unprefixed segments → Denotes bare ⟨step.id, segments⟩ →
        Denotes full ⟨step.id, .key "result" :: segments⟩ → ∀ node,
          (lookup bare outputs = .ok node ↔ walk step.id v segments = .ok node) ∧
            (lookup full outputs = .ok node ↔ walk step.id v segments = .ok node) := by
  constructor
  · intro outputs id value segments bare full stored denotes denotes'
    refine ⟨fun absent unprefixed => ?_, fun inner held => lookup_of_result stored held denotes'⟩
    rw [lookup_of_no_result stored absent denotes', lookup_of_unprefixed stored unprefixed denotes]
    exact told_mapError_ofWalk ..
  · intro σ learning invoke p caller step s called v content answers
    constructor
    · refine (content.executeStep_eq learning answers).imp_left ?_
      rintro ⟨after, completed⟩
      have stored := Entries.lookup_put step.id step.id v p.outputs
      rw [if_pos rfl] at stored
      exact ⟨after, completed, stored⟩
    · intro outputs segments bare full stored unprefixed denotes denotes' node
      rw [lookup_of_unprefixed stored unprefixed denotes,
        lookup_of_no_result stored content.noResult denotes']
      exact ⟨Success.mapError_ok_iff, Success.mapError_ok_iff⟩

/-- A path into a list, one into an entry `result`, and a step whose tool answers in an envelope. -/
theorem leading_result_transparent_enveloped :
    let outputs : Outputs := [("u", .list [.null]), ("w", .dict [("result", .list [.bool true])])]
    let content : Value := .dict [("n", .null)]
    let invoke : Invoker Unit := fun _ _ _ s => (.ok (.dict [("result", content)]), s)
    let step : Step := ⟨"a", "t", [], none, none⟩
    let caller : Caller Unit := ⟨.null, fun _ => false⟩
    told (lookup "u.result[7]" outputs) = told (lookup "u[7]" outputs) ∧
      lookup "w.result[0]" outputs = .ok (.bool true) ∧
      ∃ after, executeStep ⟨true, fun _ => false, 8⟩ invoke [] [] caller step (.opening () []) =
          (.ok content, after) ∧
        lookup "a.result.n" [("a", content)] = .ok .null := by
  intro outputs content invoke step caller
  have listed := (leading_result_transparent.1 outputs "u" _ [.bracket 7] "u[7]" "u.result[7]"
    rfl rfl rfl).1 rfl nofun
  have inner := (leading_result_transparent.1 outputs "w" _ [.bracket 0] "w[0]" "w.result[0]"
    rfl rfl rfl).2 _ rfl
  have sound : ¬ErrorShaped content := by
    rw [← error?_eq_none_iff]
    rfl
  have noData : content.field? "data" = none := rfl
  have enveloped : Content content := ⟨rfl, sound, rfl, by simp [noData]⟩
  obtain ⟨ends, reads⟩ := leading_result_transparent.2 ⟨true, fun _ => false, 8⟩ invoke .initial
    caller step (.opening () []) ((Session.opening () []).note (.invoking "t" "a")) content
    enveloped
    ⟨[], rfl, rfl⟩
  have other : Unprefixed [.key "n"] := by simp [Unprefixed]
  have found := (reads [("a", content)] [.key "n"] "a.n" "a.result.n" rfl other rfl rfl
    .null).2.2 rfl
  obtain ⟨after, completed, _⟩ | ⟨⟨_, unreadable⟩, _⟩ := ends
  · exact ⟨listed, inner, after, completed, found⟩
  · cases unreadable

end Path
end Workflow
