import Workflow.Proofs.Success
import Workflow.Run

/-!
What executing a step comes to. A step fails with a text, or an exception leaves it, or its tool
gave an answer in which neither the answer nor the value inside its envelopes carries an error, and
that value is the result. Runs are reasoned about through these cases alone.
-/
namespace Workflow.Execution

variable {σ : Type}

/-- The arguments of the step resolve against the outputs, and its tool, called with them, gives a
raw answer. -/
def Answers (invoke : Invoker σ) (outputs : Outputs) (caller : Caller σ) (step : Step)
    (s : Session σ) (raw : Value) (called : Session σ) : Prop :=
  ∃ args, Template.resolveEntries outputs step.args = .ok args ∧
    invoke step.tool (.dict args) caller (s.note (.invoking step.tool step.id)) = (.ok raw, called)

theorem executeStep_of_answers {learning : Learning} {invoke : Invoker σ} {outputs : Outputs}
    {producers : List (String × String)} {caller : Caller σ} {step : Step} {s called : Session σ}
    {raw : Value} (answers : Answers invoke outputs caller step s raw called) :
    executeStep learning invoke outputs producers caller step s =
      settle learning step raw called := by
  obtain ⟨args, resolved, invoked⟩ := answers
  simp only [executeStep, resolved, invoked]

/-- What a step makes of the answer that its tool gave. -/
def conclude (learning : Learning) (step : Step) (answer : Except Thrown Value) (s : Session σ) :
    Except Halt Value × Session σ :=
  match answer with
  | .error thrown => failWith step thrown s
  | .ok raw => settle learning step raw s

/-- A step whose tool raises fails with a text, or is left by an exception. -/
theorem failWith_cases (step : Step) (thrown : Thrown) (s : Session σ) :
    (∃ message, thrown.description = .ok message ∧ failWith step thrown s = fail step message s) ∨
      ∃ cause, thrown.description = .error cause ∧
        failWith step thrown s = (.error (.raised cause), s) := by
  unfold failWith
  cases thrown.description with
  | ok message => exact .inl ⟨message, rfl, rfl⟩
  | error cause => exact .inr ⟨cause, rfl, rfl⟩

theorem failWith_ne_ok (step : Step) (thrown : Thrown) (s : Session σ) (value : Value) :
    (failWith step thrown s).1 ≠ .ok value := by
  obtain ⟨_, _, same⟩ | ⟨_, _, same⟩ := failWith_cases step thrown s <;>
    simp [same, fail]

theorem executeStep_of_resolved {learning : Learning} {invoke : Invoker σ} {outputs : Outputs}
    {producers : List (String × String)} {caller : Caller σ} {step : Step} {s : Session σ}
    {args : List (String × Value)}
    (resolved : Template.resolveEntries outputs step.args = .ok args) :
    executeStep learning invoke outputs producers caller step s =
      conclude learning step
        (invoke step.tool (.dict args) caller (s.note (.invoking step.tool step.id))).1
        (invoke step.tool (.dict args) caller (s.note (.invoking step.tool step.id))).2 := by
  simp only [executeStep, resolved]
  rcases invoke step.tool (.dict args) caller (s.note (.invoking step.tool step.id))
    with ⟨answer, called⟩
  cases answer <;> rfl

/-- A result comes from an answer of the step's tool. -/
theorem executeStep_ok {learning : Learning} {invoke : Invoker σ} {outputs : Outputs}
    {producers : List (String × String)} {caller : Caller σ} {step : Step} {s after : Session σ}
    {value : Value}
    (success : executeStep learning invoke outputs producers caller step s = (.ok value, after)) :
    ∃ raw called, Answers invoke outputs caller step s raw called ∧
      settle learning step raw called = (.ok value, after) := by
  cases resolved : Template.resolveEntries outputs step.args with
  | error e => simp [executeStep, resolved, fail] at success
  | ok args =>
    rcases invoked : invoke step.tool (.dict args) caller (s.note (.invoking step.tool step.id))
      with ⟨answer, called⟩
    cases answer with
    | error thrown =>
      simp only [executeStep, resolved, invoked] at success
      exact absurd (congrArg Prod.fst success) (failWith_ne_ok step thrown called value)
    | ok raw =>
      refine ⟨raw, called, ⟨args, resolved, invoked⟩, ?_⟩
      simpa only [executeStep, resolved, invoked] using success

/-- Reading an answer succeeds exactly where neither the answer nor its content carries an error. -/
theorem read_ok_iff (raw value : Value) :
    Envelope.read raw = .ok value ↔
      Envelope.error? raw = none ∧ Envelope.error? (Envelope.unwrap raw) = none ∧
        value = Envelope.unwrap raw := by
  unfold Envelope.read
  cases outside : Envelope.error? raw with
  | some message => simp
  | none =>
    cases inside : Envelope.error? (Envelope.unwrap raw) with
    | some message => simp
    | none => simp [eq_comm]

/-- An object with a text under `error` is read as this failure. -/
theorem read_of_error {entries : List (String × Value)} {message : String}
    (held : entries.lookup "error" = some (.str message)) (present : message ≠ "") :
    Envelope.read (.dict entries) = .error message := by
  have first : Envelope.firstTruthy? ["error"] (.dict entries) = some (.str message) := by
    simp [Envelope.firstTruthy?, held, Value.truthy, present]
  have shaped : Envelope.error? (.dict entries) = some message := by
    simp only [Envelope.error?, first, Option.map_some]
  simp only [Envelope.read, shaped]

/-- An object with a text under `error` is tested and read without an exception. -/
theorem fault?_of_error (room : Nat) {entries : List (String × Value)} {message : String}
    (held : entries.lookup "error" = some (.str message)) (present : message ≠ "") :
    Envelope.fault? room (.dict entries) = none := by
  have tested : Envelope.errorFault? room (.dict entries) = none := by
    simp [Envelope.errorFault?, Envelope.untellable?, held, Value.untested?]
  have first : Envelope.firstTruthy? ["error"] (.dict entries) = some (.str message) := by
    simp [Envelope.firstTruthy?, held, Value.truthy, present]
  have shaped : Envelope.error? (.dict entries) = some message := by
    simp only [Envelope.error?, first, Option.map_some]
  simp [Envelope.fault?, tested, shaped]

theorem notFoundText_ne_empty (name : String) : notFoundText name ≠ "" := by
  intro empty
  unfold notFoundText at empty
  simp only [String.append_eq_empty_iff, toString, and_assoc] at empty
  exact absurd empty.1 (by decide)

theorem fault?_notFound (room : Nat) (name : String) :
    Envelope.fault? room (.dict [("error", .str (notFoundText name))]) = none :=
  fault?_of_error room rfl (notFoundText_ne_empty name)

/-- A step whose tool is unknown fails with the text that says so. -/
theorem read_notFound (name : String) :
    Envelope.read (.dict [("error", .str (notFoundText name))]) = .error (notFoundText name) :=
  read_of_error rfl (notFoundText_ne_empty name)

/-- Everything that a result of a step says about its answer and about the session. -/
theorem settle_ok_iff (learning : Learning) (step : Step) (raw value : Value)
    (s after : Session σ) :
    settle learning step raw s = (.ok value, after) ↔
      Envelope.fault? learning.room raw = none ∧ Envelope.read raw = .ok value ∧
        ∃ learned, learn learning step.tool value s = .ok learned ∧
          after = learned.note (.completed step.id step.tool value) := by
  unfold settle
  cases Envelope.fault? learning.room raw with
  | some e => simp
  | none =>
  simp only [true_and]
  cases answer : Envelope.read raw with
  | error message => simp [fail]
  | ok content =>
    cases schema : learn learning step.tool content s with
    | error unreadable =>
      simp only [schema, fail, Prod.mk.injEq, reduceCtorEq, false_and, Except.ok.injEq, false_iff,
        not_and, not_exists]
      intro same learned found
      rw [← same, schema] at found
      cases found
    | ok learned =>
      simp only [schema, Prod.mk.injEq, Except.ok.injEq]
      constructor
      · rintro ⟨rfl, rfl⟩
        exact ⟨rfl, learned, schema, rfl⟩
      · rintro ⟨rfl, other, found, rfl⟩
        rw [schema] at found
        cases found
        exact ⟨rfl, rfl⟩

/-! What is learned of a result. -/

theorem learn_of_unwanted {learning : Learning} {tool : String}
    (unwanted : (learning.active && !learning.exempt tool) = false) (value : Value)
    (s : Session σ) : learn learning tool value s = .ok s := by
  simp only [learn, unwanted, Bool.false_eq_true, if_false]

/-- Where there is something to learn it is the schema of the value. -/
theorem learn_of_wanted {learning : Learning} {tool : String}
    (wanted : (learning.active && !learning.exempt tool) = true) (value : Value) (s : Session σ) :
    learn learning tool value s = (fun schema => ({ s with
      learned := Entries.put tool schema s.learned } : Session σ).note (.recorded tool)) <$>
        Schema.infer value := by
  simp only [learn, wanted, if_true, Catalogue.record]
  cases Schema.infer value <;> rfl

/-- Learning fails only where there is something to learn and it has no schema. -/
theorem learn_error {learning : Learning} {tool : String} {value : Value} {s : Session σ}
    {cause : Unreadable} (failed : learn learning tool value s = .error cause) :
    learning.active = true ∧ learning.exempt tool = false ∧ Schema.infer value = .error cause := by
  cases wanted : learning.active && !learning.exempt tool with
  | false =>
    rw [learn_of_unwanted wanted] at failed
    cases failed
  | true =>
    rw [learn_of_wanted wanted] at failed
    obtain ⟨active, foreign⟩ : learning.active = true ∧ learning.exempt tool = false := by
      simpa using wanted
    exact ⟨active, foreign, Success.map_error_iff.1 failed⟩

/-- Taking an answer in raises, or fails for an error in the answer or for want of a schema. -/
theorem settle_error {learning : Learning} {step : Step} {raw : Value} {s after : Session σ}
    {halt : Halt} (halted : settle learning step raw s = (.error halt, after)) :
    (∃ e, Envelope.fault? learning.room raw = some e ∧ halt = .raised (.told e) ∧ after = s) ∨
      ∃ message, Envelope.fault? learning.room raw = none ∧ halt = .failed message ∧
        (Envelope.read raw = .error message ∨
          ∃ value cause, Envelope.read raw = .ok value ∧
            (learning.active = true ∧ learning.exempt step.tool = false ∧
              Schema.infer value = .error cause) ∧
            message = s!"Unreadable result from {step.tool}: {cause.description}") := by
  unfold settle at halted
  split at halted
  next e fault =>
    cases halted
    exact .inl ⟨e, fault, rfl, rfl⟩
  next sound =>
    split at halted
    next answered =>
      cases halted
      exact .inr ⟨_, sound, rfl, .inl answered⟩
    next value answered =>
      split at halted
      next cause unlearned =>
        cases halted
        exact .inr ⟨_, sound, rfl, .inr ⟨value, cause, answered, learn_error unlearned, rfl⟩⟩
      · cases halted

/-- Why a step fails, with the text of the failure: its arguments do not resolve, its tool raises an
exception that has a text, the answer carries an error, or the value of the answer has no schema. -/
inductive Faults (learning : Learning) (invoke : Invoker σ) (outputs : Outputs)
    (producers : List (String × String)) (caller : Caller σ) (step : Step) (s : Session σ) :
    String → Prop
  | unresolved {e : ResolveError} :
    Template.resolveEntries outputs step.args = .error e →
    Faults learning invoke outputs producers caller step s
      (unresolvedText learning s.learned producers step e)
  | raised {args : List (String × Value)} {thrown : Thrown} {called : Session σ}
    {message : String} :
    Template.resolveEntries outputs step.args = .ok args →
    invoke step.tool (.dict args) caller (s.note (.invoking step.tool step.id)) =
      (.error thrown, called) →
    thrown.description = .ok message →
    Faults learning invoke outputs producers caller step s message
  | erroneous {raw : Value} {called : Session σ} {message : String} :
    Answers invoke outputs caller step s raw called →
    Envelope.fault? learning.room raw = none →
    Envelope.read raw = .error message →
    Faults learning invoke outputs producers caller step s message
  | unreadable {raw value : Value} {called : Session σ} {cause : Unreadable} :
    Answers invoke outputs caller step s raw called →
    Envelope.fault? learning.room raw = none →
    Envelope.read raw = .ok value →
    learning.active = true →
    learning.exempt step.tool = false →
    Schema.infer value = .error cause →
    Faults learning invoke outputs producers caller step s
      s!"Unreadable result from {step.tool}: {cause.description}"

/-- How an exception leaves a step: it comes up where a text is asked for of what its tool raised,
or where the answer of its tool is taken in. -/
inductive Escapes (learning : Learning) (invoke : Invoker σ) (outputs : Outputs)
    (caller : Caller σ) (step : Step) (s : Session σ) : Thrown → Session σ → Prop
  | untold {args : List (String × Value)} {thrown cause : Thrown} {called : Session σ} :
    Template.resolveEntries outputs step.args = .ok args →
    invoke step.tool (.dict args) caller (s.note (.invoking step.tool step.id)) =
      (.error thrown, called) →
    thrown.description = .error cause →
    Escapes learning invoke outputs caller step s cause called
  | faulty {raw : Value} {called : Session σ} {e : Raised} :
    Answers invoke outputs caller step s raw called →
    Envelope.fault? learning.room raw = some e →
    Escapes learning invoke outputs caller step s (.told e) called

section
variable {learning : Learning} {invoke : Invoker σ} {outputs : Outputs}
  {producers : List (String × String)} {caller : Caller σ} {step : Step} {s after : Session σ}

/-- A step that halts has a cause, which tells how. -/
theorem executeStep_error {halt : Halt}
    (halted : executeStep learning invoke outputs producers caller step s = (.error halt, after)) :
    (∃ message, halt = .failed message ∧
        Faults learning invoke outputs producers caller step s message) ∨
      ∃ cause, halt = .raised cause ∧
        Escapes learning invoke outputs caller step s cause after := by
  cases resolved : Template.resolveEntries outputs step.args with
  | error e =>
    simp only [executeStep, resolved] at halted
    cases halted
    exact .inl ⟨_, rfl, .unresolved resolved⟩
  | ok args =>
    rw [executeStep_of_resolved resolved] at halted
    rcases invoked : invoke step.tool (.dict args) caller (s.note (.invoking step.tool step.id))
      with ⟨answer, called⟩
    rw [invoked] at halted
    cases answer with
    | error thrown =>
      change failWith step thrown called = _ at halted
      obtain ⟨message, told, same⟩ | ⟨cause, untold, same⟩ := failWith_cases step thrown called
      · rw [same] at halted
        cases halted
        exact .inl ⟨message, rfl, .raised resolved invoked told⟩
      · rw [same] at halted
        cases halted
        exact .inr ⟨cause, rfl, .untold resolved invoked untold⟩
    | ok raw =>
      have answers : Answers invoke outputs caller step s raw called := ⟨args, resolved, invoked⟩
      obtain ⟨e, fault, rfl, rfl⟩ | ⟨message, sound, rfl, answered | unread⟩ := settle_error halted
      · exact .inr ⟨_, rfl, .faulty answers fault⟩
      · exact .inl ⟨_, rfl, .erroneous answers sound answered⟩
      · obtain ⟨value, cause, answered, ⟨active, foreign, unread⟩, rfl⟩ := unread
        exact .inl ⟨_, rfl, .unreadable answers sound answered active foreign unread⟩

/-- A step that fails has a cause, which its text tells. -/
theorem faults_of_failed {message : String}
    (failed : executeStep learning invoke outputs producers caller step s =
      (.error (.failed message), after)) :
    Faults learning invoke outputs producers caller step s message := by
  obtain ⟨_, same, faults⟩ | ⟨_, other, _⟩ := executeStep_error failed
  · cases same
    exact faults
  · cases other

/-- An exception that leaves a step came up there. -/
theorem escapes_of_raised {cause : Thrown}
    (raised : executeStep learning invoke outputs producers caller step s =
      (.error (.raised cause), after)) :
    Escapes learning invoke outputs caller step s cause after := by
  obtain ⟨_, other, _⟩ | ⟨_, same, escapes⟩ := executeStep_error raised
  · cases other
  · cases same
    exact escapes

theorem raised_of_escapes {cause : Thrown}
    (escapes : Escapes learning invoke outputs caller step s cause after) :
    executeStep learning invoke outputs producers caller step s =
      (.error (.raised cause), after) := by
  cases escapes with
  | untold resolved invoked untold =>
    simp only [executeStep, resolved, invoked, failWith, untold]
  | faulty answers fault =>
    rw [executeStep_of_answers answers]
    simp only [settle, fault]

end

/-- The result of a step is what is inside the envelopes of its answer. -/
theorem settle_value {learning : Learning} {step : Step} {raw value : Value} {s after : Session σ}
    (success : settle learning step raw s = (.ok value, after)) :
    value = Envelope.unwrap raw := by
  obtain ⟨_, answer, _⟩ := (settle_ok_iff learning step raw value s after).1 success
  exact ((read_ok_iff raw value).1 answer).2.2

/-- The result of a step carries no error. -/
theorem executeStep_error?_none {learning : Learning} {invoke : Invoker σ} {outputs : Outputs}
    {producers : List (String × String)} {caller : Caller σ} {step : Step} {s after : Session σ}
    {value : Value}
    (success : executeStep learning invoke outputs producers caller step s = (.ok value, after)) :
    Envelope.error? value = none := by
  obtain ⟨raw, called, _, settled⟩ := executeStep_ok success
  obtain ⟨_, answer, _⟩ := (settle_ok_iff learning step raw value called after).1 settled
  obtain ⟨_, inside, rfl⟩ := (read_ok_iff raw value).1 answer
  exact inside

/-- An exception that leaves steps has left one of them. -/
theorem escapes_of_steps {learning : Learning} {invoke : Invoker σ} {caller : Caller σ}
    {left : List Step} {p : Progress} {s : Session σ} {cause : Thrown}
    (raised : (Run.steps (executeStep learning invoke) caller left p s).1.closing = .error cause) :
    ∃ step ∈ left, ∃ outputs t after,
      Escapes learning invoke outputs caller step t cause after := by
  induction left generalizing p s with
  | nil => cases raised
  | cons step rest ih =>
    cases stop : caller.canceled s.world with
    | true =>
      rw [Run.steps_of_canceled rest stop] at raised
      cases raised
    | false =>
      rcases result : executeStep learning invoke p.outputs p.producers caller step s
        with ⟨answer, after⟩
      cases answer with
      | error halt =>
        rw [Run.steps_of_halted rest stop result] at raised
        cases halt with
        | failed message => cases raised
        | raised thrown =>
          cases raised
          exact ⟨step, by simp, p.outputs, s, after, escapes_of_raised result⟩
      | ok stored =>
        rw [Run.steps_of_completed rest stop result] at raised
        obtain ⟨other, member, escapes⟩ := ih raised
        exact ⟨other, .tail step member, escapes⟩

/-- The value of a success carries no error. -/
theorem steps_error?_none {learning : Learning} {invoke : Invoker σ} {caller : Caller σ}
    {steps : List Step} {p : Progress} {s : Session σ} {value : Value} {outputs : Outputs}
    (clean : Envelope.error? p.value = none)
    (ended : (Run.steps (executeStep learning invoke) caller steps p s).1.closing =
      .ok ⟨.success value, outputs⟩) : Envelope.error? value = none := by
  induction steps generalizing p s with
  | nil =>
    cases ended
    exact clean
  | cons step rest ih =>
    cases stop : caller.canceled s.world with
    | true =>
      rw [Run.steps_of_canceled rest stop] at ended
      cases ended
    | false =>
      rcases result : executeStep learning invoke p.outputs p.producers caller step s
        with ⟨answer, after⟩
      cases answer with
      | error halt =>
        rw [Run.steps_of_halted rest stop result] at ended
        cases halt <;> cases ended
      | ok stored =>
        rw [Run.steps_of_completed rest stop result] at ended
        exact ih (executeStep_error?_none result) ended

end Workflow.Execution
