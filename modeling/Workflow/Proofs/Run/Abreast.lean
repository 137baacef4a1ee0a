import Mathlib.Data.List.Forall2
import Workflow.Proofs.Engine.Work

/-!
Two sessions of one engine that do the same work. All that one of them can have ahead of the other
is what it has learned, and this shows in failure texts alone, behind ` Expected schema for`. Texts,
notices and journal entries are alike if they differ in nothing else. If the answers of tools depend
on their arguments and the context only, a step executed in both sessions gives the same result or
alike failures, at every depth of nesting, and leaves alike entries. The second session is that of
an engine which has learned nothing about its own tools, and nobody asks it about tools.
-/
namespace Workflow

variable {σ : Type}

namespace Execution

/-! ### Texts -/

/-- What a failure text says about the tool that produced an output. -/
def hintText (tool : String) (schema : Schema) : String :=
  s!" Expected schema for \"{tool}\": {schema.text}"

/-- Texts that are equal but for the schema in their hint. Only about some `extra` tools the first
text has a hint that the second one lacks. -/
inductive AlikeText (extra : String → Prop) : String → String → Prop
  | same (message : String) : AlikeText extra message message
  | schema (base tool : String) (learned learned' : Schema) :
    AlikeText extra (base ++ hintText tool learned) (base ++ hintText tool learned')
  | hint {base tool : String} (learned : Schema) : base ≠ "" → extra tool →
    AlikeText extra (base ++ hintText tool learned) base

theorem append_hintText_ne_empty (base tool : String) (schema : Schema) :
    base ++ hintText tool schema ≠ "" := by
  intro empty
  have hint := (String.append_eq_empty_iff.1 empty).2
  unfold hintText at hint
  simp only [String.append_eq_empty_iff, toString, and_assoc] at hint
  exact absurd hint.1 (by decide)

/-- Alike texts that differ are not empty. -/
theorem AlikeText.eq_or_ne_empty {extra : String → Prop} {message message' : String}
    (alike : AlikeText extra message message') :
    message = message' ∨ message ≠ "" ∧ message' ≠ "" := by
  cases alike with
  | same => exact .inl rfl
  | schema => exact .inr ⟨append_hintText_ne_empty _ _ _, append_hintText_ne_empty _ _ _⟩
  | hint _ present => exact .inr ⟨append_hintText_ne_empty _ _ _, present⟩

/-- A text with a hint says so. -/
theorem mark_isInfix (base tool : String) (schema : Schema) :
    " Expected schema for \"".toList <:+: (base ++ hintText tool schema).toList := by
  have parts : hintText tool schema =
      " Expected schema for \"" ++ tool ++ "\": " ++ schema.text := rfl
  rw [parts]
  generalize " Expected schema for \"" = mark
  refine ⟨base.toList, tool.toList ++ "\": ".toList ++ schema.text.toList, ?_⟩
  simp only [String.toList_append, List.append_assoc]

/-- A text without a hint is alike to itself alone, unless there are extra hints. -/
theorem AlikeText.eq_of_no_mark {message message' : String}
    (alike : AlikeText (fun _ => False) message message')
    (bare : ¬" Expected schema for \"".toList <:+: message'.toList) : message = message' := by
  cases alike with
  | same => rfl
  | schema base tool learned learned' => exact absurd (mark_isInfix base tool learned') bare
  | hint _ _ extra => exact extra.elim

/-- The tool that produced the output which an unresolved expression names. -/
def producer? (producers : List (String × String)) (e : ResolutionError) : Option String :=
  match e.cause, Path.parse e.expression with
  | .malformed _, _ => none
  | _, .error _ => none
  | _, .ok path => producers.lookup path.step

theorem schemaHint_eq (learned : List (String × Schema)) (producers : List (String × String))
    (e : ResolutionError) :
    schemaHint learned producers e =
      match producer? producers e with
      | none => ""
      | some tool => (learned.lookup tool).elim "" (hintText tool) := by
  unfold schemaHint producer?
  cases e.cause with
  | malformed fault => rfl
  | _ =>
    cases Path.parse e.expression with
    | error cause => rfl
    | ok path =>
      dsimp only
      cases producers.lookup path.step with
      | none => rfl
      | some tool =>
        dsimp only
        cases learned.lookup tool <;> rfl

theorem lookup_of_producer? {producers : List (String × String)} {e : ResolutionError}
    {tool : String} (found : producer? producers e = some tool) :
    ∃ id, producers.lookup id = some tool := by
  unfold producer? at found
  split at found
  · cases found
  · cases found
  · exact ⟨_, found⟩

/-- What a failure text says before its hint. -/
def unresolvedBase (step : Step) (error : ResolutionError) : String :=
  s!"Failed to resolve variables for step \"{step.id}\": " ++
    (ResolveError.unresolved error).description

theorem unresolvedBase_ne_empty (step : Step) (error : ResolutionError) :
    unresolvedBase step error ≠ "" := by
  intro empty
  unfold unresolvedBase at empty
  simp only [String.append_eq_empty_iff, toString, and_assoc] at empty
  exact absurd empty.1 (by decide)

theorem unresolvedText_of_active {learning : Learning} (active : learning.active = true)
    (learned : List (String × Schema)) (producers : List (String × String)) (step : Step)
    (error : ResolutionError) :
    unresolvedText learning learned producers step (.unresolved error) =
      unresolvedBase step error ++
        match producer? producers error with
        | none => ""
        | some tool => (learned.lookup tool).elim "" (hintText tool) := by
  have hint : (if learning.active then schemaHint learned producers error else "") =
      schemaHint learned producers error := if_pos active
  rw [← schemaHint_eq, ← hint]
  rfl

end Execution

open Execution

/-! ### Entries, notices and results -/

section
variable (extra : String → Prop)

/-- Entries that are equal or tell of the same failure in alike texts. -/
inductive Entry.Alike : Entry → Entry → Prop
  | same (entry : Entry) : Alike entry entry
  | failed (step tool : String) {message message' : String} : AlikeText extra message message' →
    Alike (.failed step tool message) (.failed step tool message')

inductive Outcome.Alike : Outcome → Outcome → Prop
  | same (outcome : Outcome) : Alike outcome outcome
  | failed (step : Option String) (outputs : Outputs) {message message' : String} :
    AlikeText extra message message' →
    Alike ⟨.failed message step, outputs⟩ ⟨.failed message' step, outputs⟩

/-- Notices that are equal or tell of the same failure in alike texts. -/
inductive Notice.Alike : Notice → Notice → Prop
  | same (notice : Notice) : Alike notice notice
  | failed (step : Step) {message message' : String} : AlikeText extra message message' →
    Alike (.status (.failed step message)) (.status (.failed step message'))
  | ended {outcome outcome' : Outcome} : Outcome.Alike extra outcome outcome' →
    Alike (.ended outcome) (.ended outcome')

inductive Phase.Alike : Phase → Phase → Prop
  | same (phase : Phase) : Alike phase phase
  | failed (step : Step) (p : Progress) {message message' : String} :
    AlikeText extra message message' → Alike (.failed step message p) (.failed step message' p)

/-- Results of a step that are equal or alike failures. -/
inductive AlikeResult : Except Halt Value → Except Halt Value → Prop
  | ok (value : Value) : AlikeResult (.ok value) (.ok value)
  | failed {message message' : String} : AlikeText extra message message' →
    AlikeResult (.error (.failed message)) (.error (.failed message'))
  | raised (cause : Thrown) : AlikeResult (.error (.raised cause)) (.error (.raised cause))

/-- Alike outcomes, or the same exception. -/
inductive AlikeClosing : Except Thrown Outcome → Except Thrown Outcome → Prop
  | ok {outcome outcome' : Outcome} : Outcome.Alike extra outcome outcome' →
    AlikeClosing (.ok outcome) (.ok outcome')
  | error (cause : Thrown) : AlikeClosing (.error cause) (.error cause)

/-- Answers that are equal or tell of alike failures of a run. -/
inductive AlikeAnswer : Except Thrown Value → Except Thrown Value → Prop
  | same (answer : Except Thrown Value) : AlikeAnswer answer answer
  | failed (step : Option String) {message message' : String} : AlikeText extra message message' →
    message ≠ "" → message' ≠ "" →
    AlikeAnswer (.ok (Outcome.payload ⟨.failed message step, []⟩))
      (.ok (Outcome.payload ⟨.failed message' step, []⟩))

end

theorem Notice.Alike.texts {extra : String → Prop} {message message' : String}
    {step : Option String} {outputs : Outputs}
    (alike : Notice.Alike extra (.ended ⟨.failed message step, outputs⟩)
      (.ended ⟨.failed message' step, outputs⟩)) : AlikeText extra message message' := by
  cases alike with
  | same => exact .same _
  | ended outcomes =>
    cases outcomes with
    | same => exact .same _
    | failed _ _ texts => exact texts

theorem AlikeAnswer.of_closings {extra : String → Prop} {closing closing' : Except Thrown Outcome}
    (alike : AlikeClosing extra closing closing') :
    AlikeAnswer extra (closing.map Outcome.payload) (closing'.map Outcome.payload) := by
  cases alike with
  | error cause => exact .same _
  | ok outcomes =>
    cases outcomes with
    | same => exact .same _
    | failed step outputs texts =>
      obtain rfl | ⟨present, present'⟩ := texts.eq_or_ne_empty
      · exact .same _
      · exact .failed step texts present present'

/-- What is handed back of a run as an answer is the payload of its outcome. -/
theorem Course.map_payload_report (c : Course) :
    (c.report.map fun report => report.outcome.payload) = c.closing.map Outcome.payload := by
  unfold report
  cases c.closing <;> rfl

/-- A step whose tool ran a program that failed fails with the same text. -/
theorem Envelope.read_failed {message : String} (step : Option String) (present : message ≠ "") :
    Envelope.read (Outcome.payload ⟨.failed message step, []⟩) = .error message :=
  read_of_error rfl present

theorem Envelope.fault?_failed (room : Nat) {message : String} (step : Option String)
    (present : message ≠ "") :
    Envelope.fault? room (Outcome.payload ⟨.failed message step, []⟩) = none :=
  fault?_of_error room rfl present

/-! ### Sessions -/

namespace Engine

/-- In quiet worlds the answers of the tools depend on their arguments and the context only, and the
signal is not set. The tools leave quiet worlds quiet. -/
structure Repeats (engine : Engine σ) (caller : Caller σ) (quiet : σ → Prop) : Prop where
  answers : ∀ name args d world world', engine.delegation? name args = some d →
    quiet world → quiet world' →
    (d.action d.given caller.context world).1 = (d.action d.given caller.context world').1
  keeps : ∀ name args d world, engine.delegation? name args = some d → quiet world →
    quiet (d.action d.given caller.context world).2
  unset : ∀ world, quiet world → caller.canceled world = false

/-- The world is quiet, and about the engine's own tools the session has learned what an earlier
history says. -/
structure Steady (engine : Engine σ) (quiet : σ → Prop) (history : List (String × Schema))
    (s : Session σ) : Prop where
  quiet : quiet s.world
  own : ∀ tool, engine.isBuiltin tool = true → s.learned.lookup tool = history.lookup tool

/-- A tool of the engine's own about which a history has a schema. -/
def OwnLearned (engine : Engine σ) (history : List (String × Schema)) (tool : String) : Prop :=
  engine.isBuiltin tool = true ∧ (history.lookup tool).isSome = true

/-- The session has learned about every tool that produced an output, but for the engine's own. -/
def Knows (engine : Engine σ) (p : Progress) (s : Session σ) : Prop :=
  ∀ id tool, p.producers.lookup id = some tool → engine.isBuiltin tool = false →
    (s.learned.lookup tool).isSome = true

/-- No step has asked about tools. -/
def NeverAsked (engine : Engine σ) (s : Session σ) : Prop :=
  ∀ tool step, .invoking tool step ∈ s.journal → engine.route? tool ≠ some .describeTools

/-- Two sessions go on with the same work and leave alike entries. -/
def Abreast (engine : Engine σ) (context : Value) (extra : String → Prop)
    (s s' t t' : Session σ) : Prop :=
  ∃ trace trace', engine.Works context s trace t ∧ engine.Works context s' trace' t' ∧
    List.Forall₂ (Entry.Alike extra) (trace.map Prod.fst) (trace'.map Prod.fst)

variable {engine : Engine σ} {caller : Caller σ} {quiet : σ → Prop} {context : Value}
  {extra : String → Prop} {history : List (String × Schema)}

theorem Steady.note {s : Session σ} (steady : engine.Steady quiet history s) (entry : Entry) :
    engine.Steady quiet history (s.note entry) :=
  ⟨steady.quiet, steady.own⟩

theorem knows_initial (s : Session σ) : engine.Knows .initial s := by
  rintro _ _ ⟨⟩

namespace Works

variable {s t : Session σ} {trace : Trace σ}

theorem steady (work : engine.Works caller.context s trace t)
    (repeats : engine.Repeats caller quiet) (steady : engine.Steady quiet history s) :
    engine.Steady quiet history t := by
  refine ⟨work.world_of_preserved quiet repeats.keeps steady.quiet, fun tool own => ?_⟩
  rw [work.lookup_own own, steady.own tool own]

theorem knows (work : engine.Works context s trace t) {p : Progress} (knows : engine.Knows p s) :
    engine.Knows p t :=
  fun id tool produced foreign => work.lookup_isSome tool (knows id tool produced foreign)

theorem neverAsked (work : engine.Works context s trace t) (never : engine.NeverAsked t) :
    engine.NeverAsked s := by
  intro tool step member
  refine never tool step ?_
  rw [work.journal]
  exact List.mem_append_left _ member

end Works

namespace Abreast

variable {s s' t t' u u' : Session σ}

theorem idle (s s' : Session σ) : engine.Abreast context extra s s' s s' :=
  ⟨[], [], .idle s, .idle s', .nil⟩

theorem note {entry entry' : Entry} (s s' : Session σ) (alike : Entry.Alike extra entry entry')
    (plain : entry.isCall = false) (plain' : entry'.isCall = false) :
    engine.Abreast context extra s s' (s.note entry) (s'.note entry') :=
  ⟨_, _, .note s plain, .note s' plain', .cons alike .nil⟩

theorem call {name : String} {args : Value} {d : Delegation σ} (s s' : Session σ)
    (found : engine.delegation? name args = some d) :
    engine.Abreast context extra s s'
      ((s.note (d.entry context)).act (d.action d.given context)).2
      ((s'.note (d.entry context)).act (d.action d.given context)).2 :=
  ⟨_, _, .calls found (.idle _), .calls found (.idle _), .cons (.same _) .nil⟩

theorem trans (first : engine.Abreast context extra s s' t t')
    (second : engine.Abreast context extra t t' u u') :
    engine.Abreast context extra s s' u u' := by
  obtain ⟨trace, trace', work, work', alike⟩ := first
  obtain ⟨later, later', work₂, work₂', alike₂⟩ := second
  refine ⟨trace ++ later, trace' ++ later', work.trans work₂, work'.trans work₂', ?_⟩
  rw [List.map_append, List.map_append]
  exact List.rel_append alike alike₂

theorem since (abreast : engine.Abreast context extra s s' t t') :
    List.Forall₂ (Entry.Alike extra) (s.since t) (s'.since t') := by
  obtain ⟨_, _, work, work', alike⟩ := abreast
  rwa [work.since_eq, work'.since_eq]

end Abreast

/-! ### Steps -/

variable {s s' : Session σ} {p : Progress}

theorem unresolvedText_alike (steady : engine.Steady quiet history s)
    (fresh : engine.Steady quiet [] s') (knows : engine.Knows p s) (knows' : engine.Knows p s')
    (step : Step) (e : ResolveError) :
    AlikeText (engine.OwnLearned history)
      (unresolvedText engine.learning s.learned p.producers step e)
      (unresolvedText engine.learning s'.learned p.producers step e) := by
  cases e with
  | unresolved error =>
    have active : engine.learning.active = true := rfl
    have present := unresolvedBase_ne_empty step error
    rw [unresolvedText_of_active active, unresolvedText_of_active active]
    generalize unresolvedBase step error = base at present ⊢
    cases found : producer? p.producers error with
    | none => exact .same _
    | some tool =>
      obtain ⟨id, produced⟩ := lookup_of_producer? found
      dsimp only
      -- Tools that are installed have left their schema in both sessions; about the engine's own
      -- tools one session has what its history says, and the other has none.
      cases own : engine.isBuiltin tool with
      | true =>
        rw [steady.own tool own, fresh.own tool own]
        cases held : history.lookup tool with
        | none => exact .same _
        | some schema =>
          have learned : engine.OwnLearned history tool := ⟨own, by rw [held]; rfl⟩
          simp only [List.lookup_nil, Option.elim, String.append_empty]
          exact .hint schema present learned
      | false =>
        obtain ⟨schema, held⟩ := Option.isSome_iff_exists.1 (knows id tool produced own)
        obtain ⟨schema', held'⟩ := Option.isSome_iff_exists.1 (knows' id tool produced own)
        rw [held, held']
        exact .schema _ tool schema schema'
  | _ => exact .same _

/-- Whether a schema is learned does not depend on what else a session has learned. -/
theorem settle_abreast (engine : Engine σ) (step : Step) {raw raw' : Value} (context : Value)
    (alike : AlikeAnswer extra (.ok raw) (.ok raw')) (s s' : Session σ) :
    AlikeResult extra (settle engine.learning step raw s).1
        (settle engine.learning step raw' s').1 ∧
      engine.Abreast context extra s s' (settle engine.learning step raw s).2
        (settle engine.learning step raw' s').2 := by
  cases alike with
  | failed last texts present present' =>
    simp only [settle, Envelope.fault?_failed _ last present,
      Envelope.fault?_failed _ last present', Envelope.read_failed last present,
      Envelope.read_failed last present', fail]
    exact ⟨.failed texts, .note s s' (.failed step.id step.tool texts) rfl rfl⟩
  | same =>
    unfold settle
    cases Envelope.fault? engine.learning.room raw with
    | some e => exact ⟨.raised _, .idle s s'⟩
    | none =>
    cases Envelope.read raw with
    | error message => exact ⟨.failed (.same _), .note s s' (.same _) rfl rfl⟩
    | ok value =>
      dsimp only
      cases own : engine.isBuiltin step.tool with
      | true =>
        rw [learn_of_isBuiltin own, learn_of_isBuiltin own]
        exact ⟨.ok value, .note s s' (.same _) rfl rfl⟩
      | false =>
        rw [learn_of_foreign own, learn_of_foreign own]
        cases inferred : Schema.infer value with
        | error unreadable => exact ⟨.failed (.same _), .note s s' (.same _) rfl rfl⟩
        | ok schema =>
          have recorded (t : Session σ) :=
            Catalogue.record_of_infer step.tool t.learned inferred
          exact ⟨.ok value, _, _, .learns own (recorded s) (.notes rfl (.note _ rfl)),
            .learns own (recorded s') (.notes rfl (.note _ rfl)),
            .cons (.same _) (.cons (.same _) .nil)⟩

/-- Alike answers are concluded alike. -/
theorem conclude_abreast (engine : Engine σ) (step : Step) {answer answer' : Except Thrown Value}
    (context : Value) (alike : AlikeAnswer extra answer answer') (s s' : Session σ) :
    AlikeResult extra (conclude engine.learning step answer s).1
        (conclude engine.learning step answer' s').1 ∧
      engine.Abreast context extra s s' (conclude engine.learning step answer s).2
        (conclude engine.learning step answer' s').2 := by
  cases alike with
  | failed last texts present present' =>
    exact settle_abreast engine step context (.failed last texts present present') s s'
  | same =>
    cases answer with
    | error thrown =>
      simp only [conclude, failWith]
      cases thrown.description with
      | ok message => exact ⟨.failed (.same _), .note s s' (.same _) rfl rfl⟩
      | error cause => exact ⟨.raised cause, .idle s s'⟩
    | ok raw => exact settle_abreast engine step context (.same (.ok raw)) s s'

/-- Calls in two steady sessions give alike answers, unless they ask about tools. -/
def InStep (engine : Engine σ) (caller : Caller σ) (quiet : σ → Prop)
    (history : List (String × Schema)) (invoke : Invoker σ) : Prop :=
  ∀ name args s s', engine.Steady quiet history s → engine.Steady quiet [] s' →
    engine.route? name ≠ some .describeTools → engine.NeverAsked (invoke name args caller s').2 →
    AlikeAnswer (engine.OwnLearned history) (invoke name args caller s).1
        (invoke name args caller s').1 ∧
      engine.Abreast caller.context (engine.OwnLearned history) s s' (invoke name args caller s).2
        (invoke name args caller s').2

variable {invoke : Invoker σ}

/-- A step gives the same result or alike failures in two steady sessions. -/
theorem executeStep_abreast (heeds : engine.Heeds caller invoke)
    (inStep : engine.InStep caller quiet history invoke)
    (steady : engine.Steady quiet history s) (fresh : engine.Steady quiet [] s')
    (knows : engine.Knows p s) (knows' : engine.Knows p s') (step : Step)
    (never : engine.NeverAsked
      (executeStep engine.learning invoke p.outputs p.producers caller step s').2) :
    AlikeResult (engine.OwnLearned history)
        (executeStep engine.learning invoke p.outputs p.producers caller step s).1
        (executeStep engine.learning invoke p.outputs p.producers caller step s').1 ∧
      engine.Abreast caller.context (engine.OwnLearned history) s s'
        (executeStep engine.learning invoke p.outputs p.producers caller step s).2
        (executeStep engine.learning invoke p.outputs p.producers caller step s').2 := by
  cases resolved : Template.resolveEntries p.outputs step.args with
  | error e =>
    simp only [executeStep, resolved]
    have texts := unresolvedText_alike steady fresh knows knows' step e
    exact ⟨.failed texts, .note s s' (.failed step.id step.tool texts) rfl rfl⟩
  | ok args =>
    rw [executeStep_of_resolved resolved] at never
    rw [executeStep_of_resolved resolved, executeStep_of_resolved resolved]
    have begun : engine.Abreast caller.context (engine.OwnLearned history) s s'
        (s.note (.invoking step.tool step.id)) (s'.note (.invoking step.tool step.id)) :=
      .note s s' (.same _) rfl rfl
    -- Nobody asks about tools up to the end of the step, so nobody has asked at any point before.
    obtain ⟨_, work, _⟩ := heeds step.tool (.dict args) (s'.note (.invoking step.tool step.id))
    obtain ⟨_, concluded, _⟩ := conclude_works engine caller.context step
      (invoke step.tool (.dict args) caller (s'.note (.invoking step.tool step.id))).1
      (invoke step.tool (.dict args) caller (s'.note (.invoking step.tool step.id))).2
    have never' := concluded.neverAsked never
    have asksNothing : engine.route? step.tool ≠ some .describeTools :=
      work.neverAsked never' step.tool step.id (by simp)
    obtain ⟨alike, ran⟩ := inStep step.tool (.dict args) _ _ (steady.note _) (fresh.note _)
      asksNothing never'
    obtain ⟨results, ends⟩ := conclude_abreast engine step caller.context alike _ _
    exact ⟨results, begun.trans (ran.trans ends)⟩

/-- What is learned from a result is known. -/
theorem learn_isSome {tool : String} {value : Value} {after : Session σ}
    (foreign : engine.isBuiltin tool = false)
    (learned : learn engine.learning tool value s = .ok after) :
    (after.learned.lookup tool).isSome = true := by
  rw [learn_of_foreign foreign] at learned
  obtain ⟨schema, _, rfl⟩ := Success.map_ok learned
  simp [Session.note, Entries.lookup_put]

/-- After a success the session knows the tool of the step as well. -/
theorem knows_store (heeds : engine.Heeds caller invoke) {step : Step} {value : Value}
    {after : Session σ} (knows : engine.Knows p s)
    (success : executeStep engine.learning invoke p.outputs p.producers caller step s =
      (.ok value, after)) : engine.Knows (p.store step value) after := by
  obtain ⟨_, work, _⟩ := executeStep_works heeds p.outputs p.producers step s
  rw [success] at work
  intro id tool produced foreign
  simp only [Progress.store, Entries.lookup_put] at produced
  split at produced
  next same =>
    cases produced
    obtain ⟨raw, called, _, settled⟩ := executeStep_ok success
    obtain ⟨_, _, learned, found, rfl⟩ := (settle_ok_iff ..).1 settled
    have held := learn_isSome foreign found
    exact held
  · exact work.knows knows id tool produced foreign

/-! ### Nested runs -/

/-- The remaining steps of a run end alike in two steady sessions. -/
theorem steps_abreast (repeats : engine.Repeats caller quiet) (heeds : engine.Heeds caller invoke)
    (inStep : engine.InStep caller quiet history invoke) (steps : List Step) (p : Progress)
    (s s' : Session σ) (steady : engine.Steady quiet history s) (fresh : engine.Steady quiet [] s')
    (knows : engine.Knows p s) (knows' : engine.Knows p s')
    (never : engine.NeverAsked
      (Run.steps (executeStep engine.learning invoke) caller steps p s').2) :
    AlikeClosing (engine.OwnLearned history)
        (Run.steps (executeStep engine.learning invoke) caller steps p s).1.closing
        (Run.steps (executeStep engine.learning invoke) caller steps p s').1.closing ∧
      engine.Abreast caller.context (engine.OwnLearned history) s s'
        (Run.steps (executeStep engine.learning invoke) caller steps p s).2
        (Run.steps (executeStep engine.learning invoke) caller steps p s').2 := by
  induction steps generalizing p s s' with
  | nil => exact ⟨.ok (.same _), .idle s s'⟩
  | cons step rest ih =>
    have unset := repeats.unset s.world steady.quiet
    have unset' := repeats.unset s'.world fresh.quiet
    have executed := executeStep_abreast heeds inStep steady fresh knows knows' step
    rcases result : executeStep engine.learning invoke p.outputs p.producers caller step s
      with ⟨answer, after⟩
    rcases result' : executeStep engine.learning invoke p.outputs p.producers caller step s'
      with ⟨answer', after'⟩
    simp only [Run.steps, unset, unset', Bool.false_eq_true, if_false, result, result'] at never ⊢
    rw [result, result'] at executed
    have never' : engine.NeverAsked after' := by
      cases answer' with
      | error halt => exact never
      | ok value =>
        obtain ⟨_, later, _⟩ := steps_works heeds rest (p.store step value) after'
        exact later.neverAsked never
    obtain ⟨alike, ran⟩ := executed never'
    cases alike with
    | failed texts => exact ⟨.ok (.failed (some step.id) p.outputs texts), ran⟩
    | raised cause => exact ⟨.error cause, ran⟩
    | ok value =>
      obtain ⟨trace, trace', work, work', _⟩ := id ran
      obtain ⟨closings, later⟩ := ih (p.store step value) after after'
        (work.steady repeats steady) (work'.steady repeats fresh) (knows_store heeds knows result)
        (knows_store heeds knows' result') never
      exact ⟨closings, ran.trans later⟩

theorem nestedBy_abreast (repeats : engine.Repeats caller quiet)
    (heeds : engine.Heeds caller invoke) (inStep : engine.InStep caller quiet history invoke)
    (reading : Reading) (s s' : Session σ) (steady : engine.Steady quiet history s)
    (fresh : engine.Steady quiet [] s')
    (never : engine.NeverAsked (engine.nestedBy invoke reading caller s').2) :
    AlikeAnswer (engine.OwnLearned history)
        ((engine.nestedBy invoke reading caller s).1.map fun report => report.outcome.payload)
        ((engine.nestedBy invoke reading caller s').1.map fun report => report.outcome.payload) ∧
      engine.Abreast caller.context (engine.OwnLearned history) s s'
        (engine.nestedBy invoke reading caller s).2
        (engine.nestedBy invoke reading caller s').2 := by
  match reading with
  | .error (.raised cause) => exact ⟨.same _, .idle s s'⟩
  | .error .noSteps => exact ⟨.same _, .note s s' (.same _) rfl rfl⟩
  | .error (.invalid problems) => exact ⟨.same _, .note s s' (.same _) rfl rfl⟩
  | .ok program =>
    have begun : engine.Abreast caller.context (engine.OwnLearned history) s s'
        (s.note (.running program.steps.length)) (s'.note (.running program.steps.length)) :=
      .note s s' (.same _) rfl rfl
    obtain ⟨closings, ran⟩ := steps_abreast repeats heeds inStep program.steps .initial
      (s.note (.running program.steps.length)) (s'.note (.running program.steps.length))
      (steady.note _) (fresh.note _) (knows_initial _) (knows_initial _) never
    refine ⟨?_, begun.trans ran⟩
    simp only [nestedBy, Run.complete, Run.course, Course.map_payload_report]
    exact .of_closings closings

/-- Calls through the registry are in step where runs that they start are. -/
theorem invokeWith_inStep (repeats : engine.Repeats caller quiet) {nested : Nested σ}
    (inner : ∀ reading s s', engine.Steady quiet history s → engine.Steady quiet [] s' →
      engine.NeverAsked (nested reading caller s').2 →
      AlikeAnswer (engine.OwnLearned history)
          ((nested reading caller s).1.map fun report => report.outcome.payload)
          ((nested reading caller s').1.map fun report => report.outcome.payload) ∧
        engine.Abreast caller.context (engine.OwnLearned history) s s'
          (nested reading caller s).2 (nested reading caller s').2) :
    engine.InStep caller quiet history (engine.invokeWith nested) := by
  intro name args s s' steady fresh asksNothing never
  cases found : engine.delegation? name args with
  | some d =>
    rw [invokeWith_of_delegation nested caller s found,
      invokeWith_of_delegation nested caller s' found]
    refine ⟨?_, .call s s' found⟩
    have same := repeats.answers name args d s.world s'.world found steady.quiet fresh.quiet
    change AlikeAnswer _ (d.action d.given caller.context s.world).1
      (d.action d.given caller.context s'.world).1
    rw [same]
    exact .same _
  | none =>
    obtain route | route | route := route?_of_not_delegated found
    · simp only [invokeWith, route]
      exact ⟨.same _, .note s s' (.same _) rfl rfl⟩
    · exact absurd route asksNothing
    · rw [invokeWith_of_runProgram nested args caller s route,
        invokeWith_of_runProgram nested args caller s' route]
      rw [invokeWith_of_runProgram nested args caller s' route] at never
      exact inner (Program.read args) s s' steady fresh never

/-- Calls are in step at every depth of nesting. -/
theorem invokeAt_inStep (repeats : engine.Repeats caller quiet) (depth : Nat) :
    engine.InStep caller quiet history (engine.invokeAt depth) := by
  induction depth with
  | zero => exact invokeWith_inStep repeats fun _ s s' _ _ _ => ⟨.same _, .idle s s'⟩
  | succ depth ih =>
    exact invokeWith_inStep repeats
      (nestedBy_abreast repeats (invokeAt_heeds engine caller depth) ih)

theorem invoke_inStep (repeats : engine.Repeats caller quiet) :
    engine.InStep caller quiet history engine.invoke :=
  invokeAt_inStep repeats engine.limits.runs

end Engine

end Workflow
