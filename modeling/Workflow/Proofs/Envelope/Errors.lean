import Mathlib.Tactic.ByContra
import Workflow.Proofs.Execution.Step
import Workflow.Proofs.Json.Shaped
import Workflow.Proofs.Success
import Workflow.Proofs.Value.Decidable
import Workflow.Engine

/-!
Errors inside the envelopes of an answer. A value is error-shaped if it is an object with a truthy
`error` or a text that starts with `Error`. An answer is looked at twice, as it came and without its
envelopes, so an error object in between is lost if it has an envelope of its own: `Loses` says
when, and for all other answers an error in any layer fails the step.
-/
namespace Workflow.Envelope

/-- An object whose `error` entry is truthy. -/
def HasError (v : Value) : Prop := ∃ error, v.field? "error" = some error ∧ error.truthy = true

/-- A text that starts with `Error`. -/
def SaysError (v : Value) : Prop := ∃ text, v = .str text ∧ "Error".toList <+: text.toList

def ErrorShaped (v : Value) : Prop := HasError v ∨ SaysError v

/-- An answer with an error object in a JSON text or in a `result` entry that neither the answer nor
its content shows. -/
def Loses (raw : Value) : Prop :=
  ¬ErrorShaped raw ∧ ¬ErrorShaped (unwrap raw) ∧
    (HasError (decoded raw) ∨ HasError (withoutResult (decoded raw)))

/-! ### Error shapes -/

/-- An object is no text to decode. -/
theorem decoded_of_hasError {v : Value} (h : HasError v) : decoded v = v := by
  obtain ⟨error, found, _⟩ := h
  cases v with
  | str text => cases found
  | _ => rfl

theorem firstTruthy?_error (v : Value) :
    firstTruthy? ["error"] v = (v.field? "error").filter Value.truthy := by
  unfold firstTruthy?
  rw [List.findSome?_cons]
  cases (v.field? "error").filter Value.truthy <;> rfl

theorem errorDetail?_isSome_iff (text : String) :
    (errorDetail? text).isSome = true ↔ "Error".toList <+: text.toList := by
  unfold errorDetail?
  rw [← List.isPrefixOf_iff_prefix]
  simp

/-- The recogniser of errors finds the two shapes and no other. -/
theorem error?_eq_none_iff (v : Value) : error? v = none ↔ ¬ErrorShaped v := by
  have fields (v : Value) : firstTruthy? ["error"] v = none ↔ ¬HasError v := by
    rw [firstTruthy?_error, Option.filter_eq_none_iff]
    simp [HasError]
  cases v with
  | str text =>
    have bare : ¬HasError (.str text) := by
      rintro ⟨error, found, _⟩
      cases found
    have marked : SaysError (.str text) ↔ "Error".toList <+: text.toList := by
      simp [SaysError]
    unfold error?
    rw [Option.map_eq_none_iff, ErrorShaped, marked, ← errorDetail?_isSome_iff]
    simp [bare]
  | _ => simp [error?, fields, ErrorShaped, SaysError]

/-! ### Faults -/

/-- Testing a value that does not count as present does not raise. -/
theorem untested?_of_not_truthy {v : Value} (absent : v.truthy = false) : v.untested? = none := by
  cases v with
  | foreign object =>
    simp only [Value.truthy, Value.untested?] at absent ⊢
    cases tested : object.truth with
    | error e => simp [tested, Except.toOption] at absent
    | ok present => rfl
  | _ => rfl

theorem untellable?_of_not_truthy (room : Nat) {error : Value} (absent : error.truthy = false) :
    untellable? room error = none := by
  cases error <;> simp [untellable?, untested?_of_not_truthy absent, absent]

/-- Where an object has no error, looking for one does not raise. -/
theorem errorFault?_of_not_hasError (room : Nat) {v : Value} (object : v.isObject = true)
    (sound : ¬HasError v) : errorFault? room v = none := by
  have looked : errorFault? room v = (v.field? "error").bind (untellable? room) := by
    cases v with
    | str text => cases object
    | _ => rfl
  rw [looked]
  cases held : v.field? "error" with
  | none => rfl
  | some error =>
    have absent : error.truthy = false := by
      rw [← Bool.not_eq_true]
      exact fun present => sound ⟨error, held, present⟩
    exact untellable?_of_not_truthy room absent

/-- Decoding an object does not raise. -/
theorem undecodable?_of_isObject (room : Nat) {v : Value} (object : v.isObject = true) :
    undecodable? room v = none := by
  cases v with
  | str text => cases object
  | _ => rfl

theorem withoutResult_of_object {v : Value} (object : v.isObject = true) :
    withoutResult (.dict [("result", v)]) = v := by
  change decoded v = v
  cases v with
  | str text => cases object
  | _ => rfl

/-- An object with no `data` is what a `result` envelope around it stands for. -/
theorem unwrap_of_object {v : Value} (object : v.isObject = true)
    (bare : ∀ data, v.field? "data" = some data → data.truthy = false) :
    unwrap (.dict [("result", v)]) = v := by
  change withoutData (withoutResult (.dict [("result", v)])) = v
  rw [withoutResult_of_object object, withoutData]
  split
  next data held => simp [bare data held]
  next => rfl

/-- An answer in a `result` envelope is taken in without an exception if what the envelope holds is
an object with no error and no `data`. -/
theorem fault?_of_result (room : Nat) {v : Value} (object : v.isObject = true)
    (sound : ¬HasError v) (bare : ∀ data, v.field? "data" = some data → data.truthy = false) :
    fault? room (.dict [("result", v)]) = none := by
  have opened : withoutResult (decoded (.dict [("result", v)])) = v :=
    withoutResult_of_object object
  have tested : (v.field? "data").bind Value.untested? = none := by
    cases held : v.field? "data" with
    | none => rfl
    | some data => exact untested?_of_not_truthy (bare data held)
  have outside : errorFault? room (.dict [("result", v)]) = none := rfl
  have inside : ((decoded (.dict [("result", v)])).field? "result").bind (undecodable? room) =
      none := undecodable?_of_isObject room object
  have around : undecodable? room (.dict [("result", v)]) = none := rfl
  simp only [fault?, unwrapFault?, outside, around, inside, opened, unwrap_of_object object bare,
    tested, errorFault?_of_not_hasError room object sound, Option.none_or, ite_self]

/-- Taking in a text of more opening brackets than there is room for raises. -/
theorem fault?_brackets {n room : Nat} (deep : room < n) :
    fault? room (.str (String.ofList (List.replicate n '['))) =
      some (Json.tooDeep "array") := by
  have plain : errorDetail? (String.ofList (List.replicate n '[')) = none := by
    obtain ⟨n, rfl⟩ := Nat.exists_eq_add_one.2 (Nat.zero_lt_of_lt deep)
    simp [errorDetail?, List.replicate_succ]
  simp [fault?, errorFault?, error?, unwrapFault?, undecodable?, plain,
    Json.overflow?_brackets n room deep]

/-! ### Layers -/

/-- No JSON text starts with the letter of `Error`. -/
theorem document_of_E (rest : List Char) :
    Json.document ('E' :: rest) = .error (.fault .expectedValue ('E' :: rest)) := by
  have noWord : Json.words.find? (fun word => word.1.isPrefixOf ('E' :: rest)) = none := by
    simp [Json.words, List.isPrefixOf]
  have noScalar : Json.scalar ('E' :: rest) = .error (.fault .expectedValue ('E' :: rest)) := by
    simp only [Json.scalar, noWord]
    simp [Json.number, Json.wholeDigits, Json.isAsciiDigit]
  have noSpace : Json.skipSpace ('E' :: rest) = 'E' :: rest := by
    simp [Json.skipSpace, Json.isJsonSpace]
  simp [Json.document, Json.value, noSpace, noScalar, bind, Except.bind]

/-- A text that says an error stands for itself. -/
theorem decoded_of_saysError {v : Value} (h : SaysError v) : decoded v = v := by
  obtain ⟨text, rfl, rest, found⟩ := h
  have shown : text.toList = 'E' :: ('r' :: 'r' :: 'o' :: 'r' :: rest) := found.symm
  simp only [decoded, Json.parseOrText, Json.parse, shown, document_of_E, Success.mapError_error]

theorem withoutResult_of_saysError {v : Value} (h : SaysError v) : withoutResult v = v := by
  obtain ⟨text, rfl, _⟩ := h
  rfl

theorem withoutData_of_saysError {v : Value} (h : SaysError v) : withoutData v = v := by
  obtain ⟨text, rfl, _⟩ := h
  rfl

/-- What a `result` entry holds becomes the next layer, decoded. -/
theorem withoutResult_of_field {v inner : Value} (found : v.field? "result" = some inner) :
    withoutResult v = decoded inner := by
  simp only [withoutResult, found]

/-- The layers that can be error-shaped: the answer, its content, and error objects in between. -/
theorem errorShaped_layer_iff (raw : Value) :
    (∃ layer ∈ layers raw, ErrorShaped layer) ↔
      ErrorShaped raw ∨ ErrorShaped (unwrap raw) ∨ HasError (decoded raw) ∨
        HasError (withoutResult (decoded raw)) := by
  constructor
  · rintro ⟨layer, member, shaped⟩
    simp only [layers, List.mem_append, List.mem_cons, List.not_mem_nil, or_false,
      Option.mem_toList] at member
    -- A text that says an error is no envelope: in any layer it is the content as well.
    rcases member with ((rfl | rfl) | found) | rfl | rfl
    · exact .inl shaped
    · rcases shaped with object | worded
      · exact .inr (.inr (.inl object))
      · refine .inr (.inl (.inr ?_))
        rwa [unwrap, withoutResult_of_saysError worded, withoutData_of_saysError worded]
    · have next := withoutResult_of_field found
      rcases shaped with object | worded
      · exact .inr (.inr (.inr (by rwa [next, decoded_of_hasError object])))
      · refine .inr (.inl (.inr ?_))
        rwa [unwrap, next, decoded_of_saysError worded, withoutData_of_saysError worded]
    · rcases shaped with object | worded
      · exact .inr (.inr (.inr object))
      · refine .inr (.inl (.inr ?_))
        rwa [unwrap, withoutData_of_saysError worded]
    · exact .inr (.inl shaped)
  · rintro (shaped | shaped | object | object)
    · exact ⟨raw, by simp [layers], shaped⟩
    · exact ⟨unwrap raw, by simp [layers, unwrap], shaped⟩
    · exact ⟨decoded raw, by simp [layers], .inl object⟩
    · exact ⟨withoutResult (decoded raw), by simp [layers], .inl object⟩

end Workflow.Envelope

namespace Workflow.Execution
open Envelope

variable {σ : Type}

/-- The step fails, and a run that gets to it ends with the outputs of the steps before it. -/
def FailsUnstored (learning : Learning) (invoke : Invoker σ) (p : Progress) (caller : Caller σ)
    (step : Step) (s : Session σ) : Prop :=
  ∃ message after,
    executeStep learning invoke p.outputs p.producers caller step s =
      (.error (.failed message), after) ∧
    ∀ rest, caller.canceled s.world = false →
      Run.steps (executeStep learning invoke) caller (step :: rest) p s =
        (⟨[.started step, .failed step message],
          .ok ⟨.failed message (some step.id), p.outputs⟩⟩, after)

theorem failsUnstored_iff (learning : Learning) (invoke : Invoker σ) (p : Progress)
    (caller : Caller σ) (step : Step) (s : Session σ) :
    FailsUnstored learning invoke p caller step s ↔
      ∃ message, (executeStep learning invoke p.outputs p.producers caller step s).1 =
        .error (.failed message) := by
  rcases result : executeStep learning invoke p.outputs p.producers caller step s
    with ⟨answer, after⟩
  constructor
  · rintro ⟨message, final, failed, _⟩
    rw [result] at failed
    exact ⟨message, congrArg Prod.fst failed⟩
  · rintro ⟨message, failed⟩
    simp only at failed
    subst failed
    exact ⟨message, after, result, fun rest unset => Run.steps_of_halted rest unset result⟩

/-- A step whose tool answers fails for an error on the outside or on the inside of the answer, or
because there is no schema of its content; otherwise it succeeds, if taking the answer in does not
raise. -/
theorem failsUnstored_of_answers {learning : Learning} {invoke : Invoker σ} {p : Progress}
    {caller : Caller σ} {step : Step} {s called : Session σ} {raw : Value}
    (answers : Answers invoke p.outputs caller step s raw called) :
    FailsUnstored learning invoke p caller step s ↔
      fault? learning.room raw = none ∧ (ErrorShaped raw ∨ ErrorShaped (unwrap raw) ∨
        ¬∃ learned, learn learning step.tool (unwrap raw) called = .ok learned) := by
  rw [failsUnstored_iff, executeStep_of_answers answers]
  cases fault : fault? learning.room raw with
  | some e => simp [settle, fault]
  | none =>
  have success := settle_ok_iff learning step raw (unwrap raw) called
  rw [read_ok_iff, error?_eq_none_iff, error?_eq_none_iff] at success
  rcases result : settle learning step raw called with ⟨answer, after⟩
  cases answer with
  | error halt =>
    obtain ⟨e, faulty, _⟩ | ⟨message, _, rfl, _⟩ := settle_error result
    · rw [fault] at faulty
      cases faulty
    simp only [Except.error.injEq, Halt.failed.injEq, exists_eq', true_and, true_iff]
    by_contra succeeds
    simp only [not_or, not_not] at succeeds
    obtain ⟨outside, inside, learned, found⟩ := succeeds
    have ok := (success _).2 ⟨fault, ⟨outside, inside, rfl⟩, learned, found, rfl⟩
    rw [result] at ok
    cases ok
  | ok value =>
    obtain rfl := settle_value result
    obtain ⟨_, ⟨outside, inside, _⟩, learned, found, _⟩ := (success after).1 result
    simp [outside, inside, found]

/-- Taking an answer in raises in a step, and so in the run that gets to it, and nothing is
stored. -/
def RaisesUnstored (learning : Learning) (invoke : Invoker σ) (p : Progress) (caller : Caller σ)
    (step : Step) (s : Session σ) (cause : Raised) : Prop :=
  ∃ after,
    executeStep learning invoke p.outputs p.producers caller step s =
      (.error (.raised (.told cause)), after) ∧
    ∀ rest, caller.canceled s.world = false →
      Run.steps (executeStep learning invoke) caller (step :: rest) p s =
        (⟨[.started step], .error (.told cause)⟩, after)

/-- An error in some layer of an answer fails the step and leaves nothing stored, except where an
answer loses it and its content is learned, or where taking in an answer with an error raises. Then
nothing is stored either. -/
theorem error_in_layer_fails_iff (learning : Learning) (invoke : Invoker σ) (p : Progress)
    (caller : Caller σ) (step : Step) (s called : Session σ) (raw : Value)
    (answers : Answers invoke p.outputs caller step s raw called) :
    (((∃ layer ∈ layers raw, ErrorShaped layer) →
        FailsUnstored learning invoke p caller step s) ↔
      ¬((Loses raw ∧ ∃ learned, learn learning step.tool (unwrap raw) called = .ok learned) ∨
        (∃ layer ∈ layers raw, ErrorShaped layer) ∧
          ∃ cause, fault? learning.room raw = some cause)) ∧
    ∀ cause, fault? learning.room raw = some cause →
      RaisesUnstored learning invoke p caller step s cause := by
  constructor
  · rw [failsUnstored_of_answers answers]
    cases fault : fault? learning.room raw with
    | some e =>
      have shaped_of_loses (loses : Loses raw) : ∃ layer ∈ layers raw, ErrorShaped layer :=
        (errorShaped_layer_iff raw).2 (.inr (.inr loses.2.2))
      constructor
      · rintro kept (⟨loses, _⟩ | ⟨shaped, _⟩)
        · cases (kept (shaped_of_loses loses)).1
        · cases (kept shaped).1
      · intro none shaped
        exact absurd (.inr ⟨shaped, e, rfl⟩) none
    | none =>
      rw [errorShaped_layer_iff]
      constructor
      · rintro kept (⟨⟨outside, inside, between⟩, learned⟩ | ⟨_, _, ⟨⟩⟩)
        rcases (kept (.inr (.inr between))).2 with shaped | shaped | unlearned
        · exact outside shaped
        · exact inside shaped
        · exact unlearned learned
      · intro kept shaped
        refine ⟨rfl, ?_⟩
        by_contra succeeds
        simp only [not_or, not_not] at succeeds
        obtain ⟨outside, inside, learned⟩ := succeeds
        rcases shaped with shaped | shaped | between
        · exact outside shaped
        · exact inside shaped
        · exact kept (.inl ⟨⟨outside, inside, between⟩, learned⟩)
  · intro cause fault
    have raised : executeStep learning invoke p.outputs p.producers caller step s =
        (.error (.raised (.told cause)), called) := raised_of_escapes (.faulty answers fault)
    exact ⟨called, raised, fun rest unset => Run.steps_of_halted rest unset raised⟩

/-- An answer that hides its error in a `result` entry still fails its step. -/
theorem error_in_result_fails :
    let step : Step := ⟨"a", "t", [], none, none⟩
    let raw : Value := .dict [("result", .dict [("error", .str "inner")])]
    let invoke : Invoker Unit := fun _ _ _ s => (.ok raw, s)
    let caller : Caller Unit := ⟨.null, fun _ => false⟩
    let s : Session Unit := .opening () []
    Answers invoke [] caller step s raw (s.note (.invoking "t" "a")) ∧
      ((∃ layer ∈ layers raw, ErrorShaped layer) →
        FailsUnstored ⟨false, fun _ => false, 8⟩ invoke .initial caller step s) := by
  intro step raw invoke caller s
  have answers : Answers invoke [] caller step s raw (s.note (.invoking "t" "a")) :=
    ⟨[], rfl, rfl⟩
  refine ⟨answers, (error_in_layer_fails_iff ⟨false, fun _ => false, 8⟩ invoke .initial caller step
    s _ raw answers).1.2 ?_⟩
  rintro (⟨⟨_, inside, _⟩, _⟩ | ⟨_, _, ⟨⟩⟩)
  exact inside (.inl ⟨.str "inner", rfl, rfl⟩)

/-- An engine with one tool, which always gives one answer. -/
def answering (raw : Value) : Engine Unit :=
  ⟨.standard, [("t", .single ⟨"t", "", []⟩ fun _ _ w => (.ok raw, w))], ⟨0, 8⟩⟩

/-- What a program of one step comes to if its tool gives an answer: payload and outputs. -/
def oneStepResult (raw : Value) : Option (Value × Outputs) :=
  ((answering raw).run (.list [.dict [("id", .str "a"), ("tool", .str "t")]])
    ⟨.null, fun _ => false⟩ (.opening () [])).1.toOption.map fun report =>
      (report.outcome.payload, report.outcome.outputs)

/-- An error object with `data` fails its step, and its JSON text is stored as a success. -/
theorem error_lost_in_text :
    let object : Value := .dict [("error", .str "boom"), ("data", .list [.int 1])]
    let text : Value := .str "\x7b\"error\": \"boom\", \"data\": [1]\x7d"
    object ∈ layers text ∧ ErrorShaped object ∧
      oneStepResult object =
        some (.dict [("error", .str "boom"), ("failedStep", .str "a")], []) ∧
      oneStepResult text = some (.list [.int 1], [("a", .list [.int 1])]) := by
  refine ⟨by decide +kernel, .inl ⟨.str "boom", rfl, rfl⟩, by decide +kernel, by decide +kernel⟩

end Workflow.Execution
