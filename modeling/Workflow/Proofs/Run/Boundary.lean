import Workflow.Proofs.Run.Course

/-!
The boundary between hosts and runs. Whatever a host submits, reading it gives a program or a
refusal, and every way to run it ends once with data, unless a tool gives a step of the program
something that cannot be taken in. There is one exception, an integer of too many digits in a text
or where a text is due: there every way to run raises.
-/
namespace Workflow

/-- A text that would be read as JSON but for an integer with more digits than the numeral limit, or
a value with such an integer where the text of a step is due; and what reading it raises. -/
def Oversized (raw : Value) (cause : Raised) : Prop :=
  (∃ text digits, raw = .str text ∧ Json.parse text = .error (.numeral digits) ∧
    cause = ⟨"ValueError", Text.tooManyDigits digits⟩) ∨
  Program.Overlong raw ∧ cause = ⟨"ValueError", Text.tooManyToWrite⟩

/-- Reading gave a program, or a refusal that becomes the outcome of a run. -/
def Decided (reading : Reading) : Prop := ∀ cause, reading ≠ .error (.raised cause)

theorem decided_read_iff (raw : Value) :
    Decided (Program.read raw) ↔ ¬∃ cause, Oversized raw cause := by
  simp only [Decided, ne_eq, Program.read_raised_iff, not_exists]
  rfl

namespace Run
open Execution

variable {σ : Type}

/-- An exception leaves a run of an accepted program through one of its steps, whose tool gave what
cannot be taken in. -/
def LeavesStep (engine : Engine σ) (caller : Caller σ) (raw : Value) (cause : Thrown) : Prop :=
  ∃ program step outputs s after, Program.read raw = .ok program ∧ step ∈ program.steps ∧
    Escapes engine.learning engine.invoke outputs caller step s cause after

/-- Events of a run that can be told have one end, after which there are none. -/
theorem drainAmid_submitted (engine : Engine σ) (caller : Caller σ) (interim : Interim σ)
    (raw : Value) (s : Session σ) (decided : Decided (Program.read raw)) :
    ∃ (c : Course) (after : Session σ),
      Phase.drainAmid engine.execute caller interim (.submitted (Program.read raw)) s =
        (c.notices, .closed, after) ∧
      ∀ cause, c.closing = .error cause → LeavesStep engine caller raw cause := by
  rcases reading : Program.read raw with refusal | program
  · have drained := drainAmid_of_refused engine caller interim s reading fun cause same =>
      decided cause (same ▸ reading)
    rw [reading] at drained
    exact ⟨_, _, drained, nofun⟩
  · obtain ⟨done, rest, _, t, tail, closing, after, split, _, finish, taken⟩ :=
      takeAmid_before engine.learning engine.invoke caller interim program.steps 0 .initial
        (s.note (.running program.steps.length))
    refine ⟨⟨stages done ++ tail, closing.map Prod.fst⟩, after, taken, fun cause raised => ?_⟩
    cases finish with
    | @raised step rest other final _ escapes =>
      cases raised
      exact ⟨program, step, _, _, _, reading, by simp [split], escapes⟩
    | _ => cases raised

theorem course_decided (engine : Engine σ) (caller : Caller σ) (raw : Value) (s : Session σ)
    (decided : Decided (Program.read raw)) (cause : Thrown)
    (raised : (course engine.execute (Program.read raw) caller s).1.closing = .error cause) :
    LeavesStep engine caller raw cause := by
  obtain ⟨c, after, drained, leaves⟩ := drainAmid_submitted engine caller .idle raw s decided
  rw [Phase.course_of_drainAmid drained] at raised
  exact leaves cause raised

end Run

/-- Running a program hands back the payload of its outcome. -/
theorem Engine.runProgram_eq {σ : Type} (engine : Engine σ) (raw : Value) (caller : Caller σ)
    (s : Session σ) :
    engine.runProgram raw caller s =
      ((Run.course engine.execute (Program.read raw) caller s).1.closing.map Outcome.payload,
        (Run.course engine.execute (Program.read raw) caller s).2) := by
  simp only [runProgram, run, Run.complete]
  rcases Run.course engine.execute (Program.read raw) caller s with ⟨⟨statuses, closing⟩, after⟩
  cases closing <;> rfl

namespace Request

variable {σ : Type}

/-- A request that runs a program hands back the payload of its outcome. -/
theorem finish_submitted (engine : Engine σ) (caller : Caller σ) (reading : Reading)
    (s : Session σ) :
    finish engine caller (.run (.submitted reading)) s =
      ((Run.course engine.execute reading caller s).1.closing.map Outcome.payload,
        (Run.course engine.execute reading caller s).2) := by
  simp only [finish, Phase.drain_submitted, Course.notices, List.foldl_append, List.foldl_cons,
    List.foldl_nil]
  cases (Run.course engine.execute reading caller s).1.closing <;> rfl

/-- The two names of the engine's own tools differ. -/
theorem runName_ne_describeName (settings : Settings) :
    Engine.runName settings ≠ Engine.describeName settings := by
  intro same
  have tails := congrArg String.toList same
  simp [Engine.runName, Engine.describeName] at tails

/-- Absent parameters are refused as a program, just as empty ones are. -/
theorem ofName_runName (engine : Engine σ) (raw : Value) :
    ofName engine (Engine.runName engine.settings) raw = ofProgram raw := by
  cases raw with
  | null =>
    simp only [ofName, runName_ne_describeName, if_false, if_true, ofProgram]
    rfl
  | _ => simp only [ofName, runName_ne_describeName, if_false, if_true, ofProgram]

/-- Requests under unknown names never raise. -/
theorem finish_ofName_unknown (engine : Engine σ) (caller : Caller σ) (name : String)
    (parameters : Value) (s : Session σ) (other : name ≠ Engine.runName engine.settings)
    (another : name ≠ Engine.describeName engine.settings) :
    ∃ value after, finish engine caller (ofName engine name parameters) s = (.ok value, after) := by
  simp only [ofName, other, another, if_false]
  exact ⟨_, _, rfl⟩

end Request

/-- A way to run what a host submitted gives a result, unless an exception leaves a step. -/
def Ends {σ α : Type} (engine : Engine σ) (caller : Caller σ) (raw : Value)
    (answer : Except Thrown α) : Prop :=
  ∀ cause, answer = .error cause → Run.LeavesStep engine caller raw cause

/-- Every way to run what a host submitted ends once: reading it decides, the run has an outcome and
a payload, a host that pulls it receives one result after the statuses and nothing more, and a
request under any name but that of the describing tool has a value. -/
structure EndsOnce {σ : Type} (engine : Engine σ) (caller : Caller σ) (interim : Interim σ)
    (raw : Value) (s : Session σ) : Prop where
  read : (∃ program, Program.read raw = .ok program) ∨ Program.read raw = .error .noSteps ∨
    ∃ problems, Program.read raw = .error (.invalid problems)
  run : Ends engine caller raw (engine.run raw caller s).1
  payload : Ends engine caller raw (engine.runProgram raw caller s).1
  stream : ∃ notices after statuses value canceled,
    Phase.drainAmid engine.execute caller interim (.submitted (Program.read raw)) s =
      (notices, .closed, after) ∧
    (notices.mapM Event.ofNotice =
        .ok (List.map Event.status statuses ++ [.result value canceled]) ∨
      ∃ cause, notices = statuses.map Notice.status ++ [.raised cause] ∧
        Run.LeavesStep engine caller raw cause)
  request : ∀ name, name ≠ Engine.describeName engine.settings →
    Ends engine caller raw ((Request.ofName engine name raw).finish engine caller s).1

/-- Every way to run what a host submitted raises, and nothing is done. -/
structure Raises {σ : Type} (engine : Engine σ) (caller : Caller σ) (interim : Interim σ)
    (raw : Value) (s : Session σ) (cause : Raised) : Prop where
  run : engine.run raw caller s = (.error (.told cause), s)
  payload : engine.runProgram raw caller s = (.error (.told cause), s)
  stream : (Phase.drainAmid engine.execute caller interim (.submitted (Program.read raw)) s).1 =
    [.raised (.told cause)]
  request : (Request.ofName engine (Engine.runName engine.settings) raw).finish engine caller s =
    (.error (.told cause), s)

section
variable {σ : Type} (engine : Engine σ) (caller : Caller σ) (interim : Interim σ) (raw : Value)
  (s : Session σ)

theorem endsOnce_of_decided (decided : Decided (Program.read raw)) :
    EndsOnce engine caller interim raw s := by
  have leaves := Run.course_decided engine caller raw s decided
  obtain ⟨c, final, drained, leaves'⟩ := Run.drainAmid_submitted engine caller interim raw s decided
  have run : Ends engine caller raw (engine.run raw caller s).1 := by
    intro cause raised
    apply leaves
    exact Success.map_error_iff.1 raised
  refine ⟨?_, run, ?_, ?_, ?_⟩
  · rcases reading : Program.read raw with refusal | program
    · cases refusal with
      | noSteps => exact .inr (.inl rfl)
      | invalid problems => exact .inr (.inr ⟨problems, rfl⟩)
      | raised cause => exact absurd reading (decided cause)
    · exact .inl ⟨program, rfl⟩
  · intro cause raised
    apply leaves
    rw [Engine.runProgram_eq] at raised
    exact Success.map_error_iff.1 raised
  · cases closed : c.closing with
    | ok outcome =>
      refine ⟨c.notices, final, c.statuses, outcome.payload, outcome.isCanceled, drained, .inl ?_⟩
      rw [Event.mapM_ofNotice, closed]
      rfl
    | error cause =>
      refine ⟨c.notices, final, c.statuses, .null, false, drained,
        .inr ⟨cause, ?_, leaves' _ closed⟩⟩
      rw [Course.notices, closed]
      rfl
  · intro name other cause raised
    by_cases run : name = Engine.runName engine.settings
    · subst run
      rw [Request.ofName_runName, Request.ofProgram, Request.finish_submitted] at raised
      apply leaves
      exact Success.map_error_iff.1 raised
    · obtain ⟨_, _, unknown⟩ := Request.finish_ofName_unknown engine caller name raw s run other
      rw [unknown] at raised
      cases raised

theorem raises_of_oversized {cause : Raised} (oversized : Oversized raw cause) :
    Raises engine caller interim raw s cause := by
  have refused : Program.read raw = .error (.raised cause) :=
    (Program.read_raised_iff raw cause).2 oversized
  refine ⟨?_, ?_, ?_, ?_⟩
  · rw [Engine.run, refused]
    rfl
  · rw [Engine.runProgram, Engine.run, refused]
    rfl
  · rw [refused]
    rfl
  · rw [Request.ofName_runName, Request.ofProgram, Request.finish_submitted, refused]
    rfl

/-- What a host receives of a run is its events, or those before the exception that leaves it. -/
theorem Run.observed_or_interrupted (decided : Decided (Program.read raw)) :
    (∃ events outcome after, Run.Observed engine caller interim raw s events outcome after) ∨
      ∃ events cause after, Run.Interrupted engine caller interim raw s events cause after ∧
        Run.LeavesStep engine caller raw cause := by
  obtain ⟨⟨statuses, closing⟩, after, drained, leaves⟩ :=
    Run.drainAmid_submitted engine caller interim raw s decided
  cases closing with
  | ok outcome => exact .inl ⟨_, outcome, after, Run.observed_of_drainAmid drained⟩
  | error cause => exact .inr ⟨_, cause, after, Run.interrupted_of_drainAmid drained, leaves _ rfl⟩

/-- Running a program raises what reading it raises, or what leaves one of its steps. -/
theorem run_raises {cause : Thrown} (raised : (engine.run raw caller s).1 = .error cause) :
    (∃ e, Oversized raw e ∧ cause = .told e) ∨ Run.LeavesStep engine caller raw cause := by
  by_cases proper : Decided (Program.read raw)
  · exact .inr ((endsOnce_of_decided engine caller .idle raw s proper).run cause raised)
  · rw [decided_read_iff, not_not] at proper
    obtain ⟨e, oversized⟩ := proper
    rw [(raises_of_oversized engine caller .idle raw s oversized).run] at raised
    cases raised
    exact .inl ⟨e, oversized, rfl⟩

theorem not_endsOnce_of_oversized {cause : Raised} (oversized : Oversized raw cause) :
    ¬EndsOnce engine caller interim raw s := by
  have refused : Program.read raw = .error (.raised cause) :=
    (Program.read_raised_iff raw cause).2 oversized
  intro ends
  rcases ends.read with ⟨program, read⟩ | read | ⟨problems, read⟩ <;>
    · rw [refused] at read
      cases read

/-- Submitted programs end once in every way to run them, except for those with an oversized
integer, for which every way to run them raises. -/
theorem endsOnce_iff_not_oversized :
    (EndsOnce engine caller interim raw s ↔ ¬∃ cause, Oversized raw cause) ∧
      ∀ cause, Oversized raw cause → Raises engine caller interim raw s cause := by
  refine ⟨⟨?_, ?_⟩, fun cause => raises_of_oversized engine caller interim raw s⟩
  · rintro ends ⟨cause, oversized⟩
    exact not_endsOnce_of_oversized engine caller interim raw s oversized ends
  · intro proper
    exact endsOnce_of_decided engine caller interim raw s ((decided_read_iff raw).2 proper)

end

/-- A text of ones only is oversized as soon as it is longer than the numeral limit. -/
theorem oversized_ones (n : Nat) (long : Text.numeralLimit < n) :
    Oversized (.str (String.ofList (List.replicate n '1')))
      ⟨"ValueError", Text.tooManyDigits n⟩ := by
  obtain ⟨m, rfl⟩ : ∃ m, n = m + 1 := ⟨n - 1, by omega⟩
  refine .inl ⟨_, m + 1, rfl, ?_, rfl⟩
  have all : (List.replicate (m + 1) '1').takeWhile Json.isAsciiDigit =
      List.replicate (m + 1) '1' := by
    simp [Json.isAsciiDigit]
  have noWord : Json.words.find? (fun word => word.1.isPrefixOf (List.replicate (m + 1) '1')) =
      none := by
    simp [Json.words, List.isPrefixOf, List.replicate_succ]
  have refused : Json.scalar (List.replicate (m + 1) '1') =
      .error (.numeral (m + 1) (List.replicate (m + 1) '1')) := by
    simp only [Json.scalar, noWord]
    have whole : Json.wholeDigits (List.replicate (m + 1) '1') = List.replicate (m + 1) '1' := all
    have sign : ((List.replicate (m + 1) '1').head? == some '-') = false := by
      simp [List.replicate_succ]
    simp [Json.number, sign, whole, Json.fractionPart?, Json.exponentPart?, long]
  have noSpace : Json.skipSpace (List.replicate (m + 1) '1') = List.replicate (m + 1) '1' := by
    simp [Json.skipSpace, Json.isJsonSpace, List.replicate_succ]
  have document : Json.document (List.replicate (m + 1) '1') =
      .error (.numeral (m + 1) (List.replicate (m + 1) '1')) := by
    rw [List.replicate_succ] at refused noSpace ⊢
    simp [Json.document, noSpace, Json.value, refused, bind, Except.bind]
  simp [Json.parse, document, Json.Stop.toError]

/-- A step is oversized whose id is a number of too many digits. -/
theorem oversized_id (n : Int) (long : Text.isOverlong n = true) :
    Oversized (.list [.dict [("id", .int n), ("tool", .str "t")]])
      ⟨"ValueError", Text.tooManyToWrite⟩ := by
  have overlong : Step.Overlong (.dict [("id", .int n), ("tool", .str "t")]) :=
    ⟨_, rfl, n, long, .inl ⟨"id", by simp, rfl⟩⟩
  exact .inr ⟨⟨_, [], rfl, _, List.mem_cons_self, overlong⟩, rfl⟩

/-- An integer of one digit too many raises from every way to run it, in a text and as an id. -/
theorem numeral_over_limit_raises :
    let text : Value := .str (String.ofList (List.replicate 4301 '1'))
    let numbered : Value := .list [.dict [("id", .int (Nat.pow 10 4300)), ("tool", .str "t")]]
    let engine : Engine Unit := ⟨.standard, Engine.ownRoutes .standard, ⟨8, 8⟩⟩
    let caller : Caller Unit := ⟨.null, fun _ => false⟩
    let s : Session Unit := .opening () []
    Raises engine caller .idle text s ⟨"ValueError", Text.tooManyDigits 4301⟩ ∧
      ¬EndsOnce engine caller .idle text s ∧
      Raises engine caller .idle numbered s ⟨"ValueError", Text.tooManyToWrite⟩ ∧
      ¬EndsOnce engine caller .idle numbered s := by
  intro text numbered engine caller s
  have long : Text.isOverlong (Nat.pow 10 4300) = true := by
    rw [Text.isOverlong_iff, Int.natAbs_natCast, Text.numeralLimit]
  have raises : Raises engine caller .idle text s ⟨"ValueError", Text.tooManyDigits 4301⟩ :=
    raises_of_oversized engine caller .idle text s (oversized_ones 4301 (by decide))
  have raises' : Raises engine caller .idle numbered s ⟨"ValueError", Text.tooManyToWrite⟩ :=
    raises_of_oversized engine caller .idle numbered s (oversized_id _ long)
  exact ⟨raises,
    not_endsOnce_of_oversized engine caller .idle text s (oversized_ones 4301 (by decide)), raises',
    not_endsOnce_of_oversized engine caller .idle numbered s (oversized_id _ long)⟩

end Workflow
