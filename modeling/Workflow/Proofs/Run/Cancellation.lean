import Mathlib.Data.List.Nodup
import Workflow.Proofs.Engine.Work
import Workflow.Proofs.Run.Course

/-!
Cancellation of streams. A timeline lists what happens in a stream, calls of delegated tools at any
nesting depth and events, each with the world in which it happens. `Heeded` is what a pull makes
sure of: an event that starts a step, or a call, happens while the signal is not set, or the call is
that of a top-level step and comes right after the event that started it. Once the signal is set for
good, nothing is started and at most that one call is left, and the run ends at its next check.
-/
namespace Workflow

variable {σ : Type}

/-- What happens in a stream, and the world in which it happens: an event is given to the host, or
a delegated tool is called. -/
inductive Happening (σ : Type) where
  | emitted (notice : Notice) (world : σ)
  | called (entry : Entry) (world : σ)

namespace Happening

def world : Happening σ → σ
  | emitted _ world => world
  | called _ world => world

def notice? : Happening σ → Option Notice
  | emitted notice _ => some notice
  | called .. => none

def isCall : Happening σ → Bool
  | emitted .. => false
  | called .. => true

def ofCall (moment : Entry × σ) : Happening σ := .called moment.1 moment.2

end Happening

/-- What happens while a stream is pulled until it is closed; its next event has the number `k`. -/
inductive Timeline (engine : Engine σ) (caller : Caller σ) (interim : Interim σ) :
    Nat → Phase → Session σ → List (Happening σ) → Prop
  | closed (k : Nat) (s : Session σ) : Timeline engine caller interim k .closed s []
  | pulled {k : Nat} {phase next : Phase} {s after : Session σ} {notice : Notice}
      {trace : Trace σ} {later : List (Happening σ)} :
    Phase.pull engine.execute caller phase s = (some notice, next, after) →
    engine.Works caller.context s trace after →
    Timeline engine caller interim (k + 1) next (interim k after) later →
    Timeline engine caller interim k phase s
      (trace.calls.map Happening.ofCall ++ .emitted notice after.world :: later)

/-- The steps that a run has not settled. -/
def Phase.pending : Phase → List Step
  | submitted (.ok program) => program.steps
  | submitted (.error _) => []
  | before steps _ => steps
  | started step rest _ => step :: rest
  | failed .. => []
  | closed => []

theorem Phase.eq_closed_of_bound {phase : Phase} (none : phase.bound = 0) : phase = .closed := by
  match phase with
  | .closed => rfl
  | .submitted (.error e) => cases none
  | .submitted (.ok program) => simp [Phase.bound] at none
  | .before left p => simp [Phase.bound] at none
  | .started step rest p => simp [Phase.bound] at none
  | .failed step message p => cases none

theorem Phase.startNext_isSome (caller : Caller σ) (steps : List Step) (p : Progress)
    (s : Session σ) : (startNext caller steps p s).1.isSome := by
  unfold startNext
  cases steps with
  | nil => rfl
  | cons step rest => by_cases stop : caller.canceled s.world <;> simp [stop]

/-- A run gives events until it is closed. -/
theorem Phase.eq_closed_of_pull {execute : Executor σ} {caller : Caller σ} {phase : Phase}
    {s : Session σ} (none : (pull execute caller phase s).1 = none) : phase = .closed := by
  match phase with
  | .closed => rfl
  | .submitted (.error (.raised cause)) => cases none
  | .submitted (.error .noSteps) => cases none
  | .submitted (.error (.invalid problems)) => cases none
  | .submitted (.ok program) =>
    exact absurd none (Option.isSome_iff_ne_none.1 (startNext_isSome ..))
  | .before left p => exact absurd none (Option.isSome_iff_ne_none.1 (startNext_isSome ..))
  | .started step rest p =>
    simp only [pull] at none
    split at none <;> cases none
  | .failed step message p => cases none

/-! ### What one pull makes sure of -/

section
variable {engine : Engine σ} {caller : Caller σ}

/-- Work without calls, which leaves the world as it is. -/
def Engine.Silent (engine : Engine σ) (context : Value) (s t : Session σ) : Prop :=
  t.world = s.world ∧ ∃ trace, engine.Works context s trace t ∧ trace.calls = []

theorem Engine.silent_refl (engine : Engine σ) (context : Value) (s : Session σ) :
    engine.Silent context s s :=
  ⟨rfl, [], .idle s, rfl⟩

theorem Engine.Silent.note {context : Value} {s t : Session σ} {entry : Entry}
    (plain : entry.isCall = false) (later : engine.Silent context (s.note entry) t) :
    engine.Silent context s t := by
  obtain ⟨same, trace, work, none⟩ := later
  exact ⟨same, _, .notes plain work, by rwa [Trace.calls_cons_of_note _ _ plain]⟩

/-- A pull ends the run, starts its next step, or settles the step that was started. -/
inductive Turn (engine : Engine σ) (caller : Caller σ) (s : Session σ) :
    Phase → Notice → Phase → Session σ → Prop
  | ends {phase : Phase} {notice : Notice} {after : Session σ} :
    0 < phase.bound →
    (∀ event, notice ≠ .status event) →
    engine.Silent caller.context s after →
    Turn engine caller s phase notice .closed after
  | starts {phase : Phase} {step : Step} {rest : List Step} {p : Progress} {after : Session σ} :
    phase.pending = step :: rest →
    2 * rest.length + 2 < phase.bound →
    caller.canceled s.world = false →
    engine.Silent caller.context s after →
    Turn engine caller s phase (.status (.started step)) (.started step rest p) after
  | halts {step : Step} {rest : List Step} {p : Progress} {halt : Halt} {after : Session σ} :
    engine.execute p.outputs p.producers caller step s = (.error halt, after) →
    Turn engine caller s (.started step rest p) (halt.notice step) (halt.phase step p) after
  | completes {step : Step} {rest : List Step} {p : Progress} {value : Value}
      {after : Session σ} :
    engine.execute p.outputs p.producers caller step s = (.ok value, after) →
    Turn engine caller s (.started step rest p) (.status (.completed step))
      (.before rest (p.store step value)) after

/-- A check ends the run or starts the next step, after silent work. -/
theorem turn_of_startNext {phase next : Phase} {s checked after : Session σ} {left : List Step}
    {p : Progress} {notice : Notice} (pending : phase.pending = left)
    (bound : 2 * left.length < phase.bound)
    (work : ∀ t, engine.Silent caller.context checked t → engine.Silent caller.context s t)
    (begun : Phase.startNext caller left p checked = (some notice, next, after)) :
    Turn engine caller s phase notice next after := by
  have same : checked.world = s.world := (work checked (engine.silent_refl _ _)).1
  unfold Phase.startNext at begun
  cases left with
  | nil =>
    cases begun
    exact .ends (by omega) (by simp) (work _ (engine.silent_refl _ _))
  | cons step rest =>
    rw [List.length_cons] at bound
    cases stop : caller.canceled checked.world with
    | true =>
      simp only [stop, if_true] at begun
      cases begun
      exact .ends (by omega) (by simp) (work _ (.note rfl (engine.silent_refl _ _)))
    | false =>
      simp only [stop, Bool.false_eq_true, if_false] at begun
      cases begun
      exact .starts pending (by omega) (same ▸ stop) (work _ (engine.silent_refl _ _))

theorem turn_of_pull {phase next : Phase} {s after : Session σ} {notice : Notice}
    (pulled : Phase.pull engine.execute caller phase s = (some notice, next, after)) :
    Turn engine caller s phase notice next after := by
  have rejected (message : String) :
      engine.Silent caller.context s (s.note (.rejected message)) :=
    .note rfl (engine.silent_refl _ _)
  match phase with
  | .submitted (.error (.raised cause)) =>
    cases pulled
    exact .ends Nat.one_pos (by simp) (engine.silent_refl _ _)
  | .submitted (.error .noSteps) =>
    cases pulled
    exact .ends Nat.one_pos (by simp) (rejected _)
  | .submitted (.error (.invalid problems)) =>
    cases pulled
    exact .ends Nat.one_pos (by simp) (rejected _)
  | .submitted (.ok program) =>
    exact turn_of_startNext rfl (Nat.lt_succ_self _) (fun _ later => .note rfl later) pulled
  | .before left p =>
    exact turn_of_startNext rfl (Nat.lt_succ_self _) (fun _ later => later) pulled
  | .failed step message p =>
    cases pulled
    exact .ends Nat.one_pos (by simp) (engine.silent_refl _ _)
  | .started step rest p =>
    simp only [Phase.pull] at pulled
    split at pulled
    next halt after' halted =>
      cases pulled
      exact .halts halted
    next value after' completed =>
      cases pulled
      exact .completes completed

/-- A pull does what engines do. -/
theorem Engine.pull_works (engine : Engine σ) (caller : Caller σ) (phase : Phase) (s : Session σ) :
    ∃ trace, engine.Works caller.context s trace (phase.pull engine.execute caller s).2.2 := by
  rcases pulled : phase.pull engine.execute caller s with ⟨notice?, next, after⟩
  have executes (outputs : Outputs) (producers : List (String × String)) (step : Step) :
      ∃ trace, engine.Works caller.context s trace
        (engine.execute outputs producers caller step s).2 := by
    obtain ⟨trace, work, _⟩ :=
      Engine.executeStep_works (engine.invoke_heeds caller) outputs producers step s
    exact ⟨trace, work⟩
  cases notice? with
  | none =>
    obtain rfl : phase = .closed := Phase.eq_closed_of_pull (congrArg Prod.fst pulled)
    cases pulled
    exact ⟨[], .idle s⟩
  | some notice =>
    cases turn_of_pull pulled with
    | ends _ _ silent =>
      obtain ⟨_, trace, work, _⟩ := silent
      exact ⟨trace, work⟩
    | starts _ _ _ silent =>
      obtain ⟨_, trace, work, _⟩ := silent
      exact ⟨trace, work⟩
    | @halts step rest p halt _ halted =>
      have work := executes p.outputs p.producers step
      rwa [halted] at work
    | @completes step rest p value _ completed =>
      have work := executes p.outputs p.producers step
      rwa [completed] at work

/-- Every pull brings a run nearer to its end. -/
theorem Turn.bound_lt {phase next : Phase} {s after : Session σ} {notice : Notice}
    (turn : Turn engine caller s phase notice next after) : next.bound < phase.bound := by
  cases turn with
  | ends open' => exact open'
  | starts _ nearer => exact nearer
  | @halts step rest p halt => cases halt <;> simp [Halt.phase, Phase.bound]
  | completes => simp [Phase.bound]

/-- No pull adds steps. -/
theorem Turn.pending_subset {phase next : Phase} {s after : Session σ} {notice : Notice}
    (turn : Turn engine caller s phase notice next after) : next.pending ⊆ phase.pending := by
  cases turn with
  | ends => simp [Phase.pending]
  | starts pending => rw [pending, Phase.pending]; exact fun _ member => member
  | @halts step rest p halt => cases halt <;> simp [Halt.phase, Phase.pending]
  | completes => simp [Phase.pending]

end

/-! ### Timelines -/

/-- A step is started while the signal is not set. A tool is called then, or as the tool of the step
whose start is what happened last. -/
def Fits (engine : Engine σ) (caller : Caller σ) (steps : List Step)
    (previous : Option (Happening σ)) : Happening σ → Prop
  | .emitted notice world =>
    ∀ step, notice = .status (.started step) → caller.canceled world = false
  | .called entry world =>
    caller.canceled world = false ∨ ∃ step ∈ steps, ∃ args d earlier,
      engine.delegation? step.tool (.dict args) = some d ∧ entry = d.entry caller.context ∧
        previous = some (.emitted (.status (.started step)) earlier)

/-- Everything that happens fits what happened before it. -/
def Heeded (engine : Engine σ) (caller : Caller σ) (steps : List Step) :
    Option (Happening σ) → List (Happening σ) → Prop
  | _, [] => True
  | previous, h :: later =>
    Fits engine caller steps previous h ∧ Heeded engine caller steps (some h) later

section
variable {engine : Engine σ} {caller : Caller σ} {steps : List Step}

theorem heeded_append_iff {previous : Option (Happening σ)} {early late : List (Happening σ)} :
    Heeded engine caller steps previous (early ++ late) ↔
      Heeded engine caller steps previous early ∧
        Heeded engine caller steps (early.getLast?.or previous) late := by
  induction early generalizing previous with
  | nil => simp [Heeded]
  | cons h rest ih =>
    have last : (h :: rest).getLast?.or previous = rest.getLast?.or (some h) := by
      rw [List.getLast?_cons]
      cases rest.getLast? <;> rfl
    rw [List.cons_append, Heeded, Heeded, ih, last, and_assoc]

/-- Calls in worlds where the signal is not set fit anywhere. -/
theorem heeded_of_unset {trace : Trace σ} (previous : Option (Happening σ))
    (unset : trace.Unset caller) :
    Heeded engine caller steps previous (trace.calls.map Happening.ofCall) := by
  unfold Trace.Unset at unset
  generalize trace.calls = calls at unset
  induction calls generalizing previous with
  | nil => trivial
  | cons moment rest ih =>
    exact ⟨.inl (unset moment (by simp)), ih _ fun other member => unset other (by simp [member])⟩

/-- The step that a phase is about to execute is among the given ones and was started last. -/
def Opened (steps : List Step) (previous : Option (Happening σ)) (phase : Phase) : Prop :=
  ∀ step rest p, phase = .started step rest p →
    step ∈ steps ∧ ∃ world, previous = some (.emitted (.status (.started step)) world)

/-- What happens in a pull fits, and so does what it leaves to the next one. -/
theorem Turn.heeded {phase next : Phase} {s after : Session σ} {notice : Notice}
    (turn : Turn engine caller s phase notice next after) (own : phase.pending ⊆ steps) :
    Opened steps (some (.emitted notice after.world)) next ∧
      ∃ trace, engine.Works caller.context s trace after ∧
        ∀ previous, Opened steps previous phase →
          Heeded engine caller steps previous
            (trace.calls.map Happening.ofCall ++ [.emitted notice after.world]) := by
  have settles {step : Step} {rest : List Step} {p : Progress} {answer : Except Halt Value}
      {notice : Notice} (other : ∀ step, notice ≠ .status (.started step))
      (executed : engine.execute p.outputs p.producers caller step s = (answer, after)) :
      ∃ trace, engine.Works caller.context s trace after ∧
        ∀ previous, Opened steps previous (.started step rest p) →
          Heeded engine caller steps previous
            (trace.calls.map Happening.ofCall ++ [.emitted notice after.world]) := by
    obtain ⟨trace, work, called⟩ := Engine.executeStep_works (Engine.invoke_heeds engine caller)
      p.outputs p.producers step s
    have result : (Execution.executeStep engine.learning engine.invoke p.outputs p.producers caller
        step s).2 = after := congrArg Prod.snd executed
    rw [result] at work
    refine ⟨trace, work, fun previous opened => heeded_append_iff.2 ⟨?_, ?_, trivial⟩⟩
    · obtain ⟨member, world, last⟩ := opened step rest p rfl
      rcases called with ⟨args, d, found, called⟩ | unset
      · rw [called]
        exact ⟨.inr ⟨step, member, args, d, world, found, rfl, last⟩, trivial⟩
      · exact heeded_of_unset previous unset
    · exact fun started same => absurd same (other started)
  cases turn with
  | ends _ other silent =>
    obtain ⟨_, trace, work, none⟩ := silent
    refine ⟨by rintro _ _ _ ⟨⟩, trace, work, fun previous _ => ?_⟩
    rw [none]
    exact ⟨fun step same => absurd same (other _), trivial⟩
  | @starts phase step rest p after pending _ unset silent =>
    obtain ⟨same, trace, work, none⟩ := silent
    refine ⟨?_, trace, work, fun previous _ => ?_⟩
    · rintro _ _ _ ⟨⟩
      exact ⟨own (by simp [pending]), after.world, rfl⟩
    · rw [none]
      exact ⟨fun _ _ => same ▸ unset, trivial⟩
  | @halts step rest p halt _ halted =>
    refine ⟨?_, settles (fun started => ?_) halted⟩
    · cases halt <;> rintro _ _ _ ⟨⟩
    · cases halt <;> simp [Halt.notice, StatusEvent.failed, StatusEvent.started]
  | completes completed =>
    exact ⟨by rintro _ _ _ ⟨⟩, settles (by simp [StatusEvent.completed, StatusEvent.started])
      completed⟩

theorem notices_of_calls (calls : Trace σ) :
    (calls.map Happening.ofCall).filterMap Happening.notice? = [] := by
  simp [List.filterMap_map, Happening.ofCall, Function.comp_def, Happening.notice?]

/-- A stream that is pulled to its end has a timeline in which everything fits. -/
theorem exists_timeline (engine : Engine σ) (caller : Caller σ) (interim : Interim σ)
    {steps : List Step} {n : Nat} (k : Nat) {phase : Phase} (s : Session σ)
    (enough : phase.bound ≤ n) (own : phase.pending ⊆ steps) :
    ∃ timeline, Timeline engine caller interim k phase s timeline ∧
      timeline.filterMap Happening.notice? =
        (Phase.takeAmid engine.execute caller interim n k phase s).1 ∧
      ∀ previous, Opened steps previous phase → Heeded engine caller steps previous timeline := by
  induction n generalizing k phase s with
  | zero =>
    obtain rfl : phase = .closed := Phase.eq_closed_of_bound (by omega)
    exact ⟨[], .closed k s, rfl, fun _ _ => trivial⟩
  | succ n ih =>
    rcases pulled : Phase.pull engine.execute caller phase s with ⟨notice?, next, after⟩
    cases notice? with
    | none =>
      obtain rfl : phase = .closed := Phase.eq_closed_of_pull (congrArg Prod.fst pulled)
      exact ⟨[], .closed k s, rfl, fun _ _ => trivial⟩
    | some notice =>
      have turn := turn_of_pull pulled
      obtain ⟨opens, trace, work, fits⟩ := turn.heeded own
      obtain ⟨later, timeline, notices, heeded⟩ := ih (k + 1) (interim k after)
        (by have nearer := turn.bound_lt; omega) (List.Subset.trans turn.pending_subset own)
      refine ⟨_, .pulled pulled work timeline, ?_, fun previous opened => ?_⟩
      · rw [Phase.takeAmid_of_pull n k pulled, List.filterMap_append, notices_of_calls]
        simp [Happening.notice?, notices]
      · rw [List.append_cons, heeded_append_iff, List.getLast?_concat]
        exact ⟨fits previous opened, heeded _ opens⟩

/-! ### Once the signal is set -/

/-- The first thing that happens late is the only call, that of the tool of a top-level step, and
the last thing that happened early was the start of this step. -/
def LastCall (engine : Engine σ) (caller : Caller σ) (steps : List Step)
    (early late : List (Happening σ)) : Prop :=
  ∃ step ∈ steps, ∃ args d world rest earlier,
    late = .called (d.entry caller.context) world :: rest ∧ rest.filter Happening.isCall = [] ∧
    engine.delegation? step.tool (.dict args) = some d ∧
    early.getLast? = some (.emitted (.status (.started step)) earlier)

/-- What may still happen once the signal is set: no step is started, and at most one tool is
called, that of a top-level step which had just been started. If a call was the last thing before,
or the start of a step that runs a program, then none is. -/
structure QuietAfter (engine : Engine σ) (caller : Caller σ) (steps : List Step)
    (early late : List (Happening σ)) : Prop where
  nothing_started : ∀ step world, .emitted (.status (.started step)) world ∉ late
  one_call : late.filter Happening.isCall = [] ∨ LastCall engine caller steps early late
  after_call : ∀ entry world, early.getLast? = some (.called entry world) →
    late.filter Happening.isCall = []
  after_nested : ∀ step ∈ steps, ∀ world, engine.route? step.tool = some .runProgram →
    early.getLast? = some (.emitted (.status (.started step)) world) →
    late.filter Happening.isCall = []

theorem Heeded.no_start {previous : Option (Happening σ)} {late : List (Happening σ)}
    (heeded : Heeded engine caller steps previous late)
    (set : ∀ h ∈ late, caller.canceled h.world = true) (step : Step) (world : σ) :
    .emitted (.status (.started step)) world ∉ late := by
  intro member
  obtain ⟨before, after, rfl⟩ := List.append_of_mem member
  have unset : caller.canceled world = false := (heeded_append_iff.1 heeded).2.1 step rfl
  have seen : caller.canceled world = true := set _ member
  rw [seen] at unset
  cases unset

/-- A call that the set signal does not prevent comes right after the start of its step. -/
theorem Heeded.opened_of_call {previous : Option (Happening σ)} {entry : Entry} {world : σ}
    {late : List (Happening σ)}
    (heeded : Heeded engine caller steps previous (.called entry world :: late))
    (set : caller.canceled world = true) :
    ∃ step ∈ steps, ∃ args d earlier, engine.delegation? step.tool (.dict args) = some d ∧
      entry = d.entry caller.context ∧
      previous = some (.emitted (.status (.started step)) earlier) := by
  rcases heeded.1 with unset | opened
  · rw [set] at unset
    cases unset
  · exact opened

/-- After the first happening there is no call, since no start comes before it. -/
theorem Heeded.no_later_call {previous : Option (Happening σ)} {h : Happening σ}
    {late : List (Happening σ)} (heeded : Heeded engine caller steps previous (h :: late))
    (set : ∀ h' ∈ h :: late, caller.canceled h'.world = true) :
    late.filter Happening.isCall = [] := by
  rw [List.filter_eq_nil_iff]
  intro other member call
  cases other with
  | emitted notice world => cases call
  | called entry world =>
    -- It would come right after the start of its step, and nothing is started this late.
    obtain ⟨before, after, rfl⟩ := List.append_of_mem member
    rw [← List.cons_append] at heeded
    have rest := heeded_append_iff.1 heeded
    obtain ⟨step, _, _, _, earlier, _, _, last⟩ :=
      rest.2.opened_of_call (set (.called entry world) (by simp))
    have found : Happening.emitted (.status (.started step)) earlier ∈ h :: before := by
      rw [List.getLast?_cons] at last
      exact List.mem_of_getLast? (by simpa [List.getLast?_cons] using last)
    exact heeded.no_start set step earlier (List.mem_append_left _ found)

theorem quietAfter_of_heeded {early late : List (Happening σ)}
    (distinct : (steps.map Step.id).Nodup)
    (heeded : Heeded engine caller steps none (early ++ late))
    (set : ∀ h ∈ late, caller.canceled h.world = true) :
    QuietAfter engine caller steps early late := by
  have rest := (heeded_append_iff.1 heeded).2
  rw [Option.or_none] at rest
  have calls : late.filter Happening.isCall = [] ∨ LastCall engine caller steps early late := by
    cases late with
    | nil => exact .inl rfl
    | cons h later =>
      have none := rest.no_later_call set
      cases h with
      | emitted notice world => exact .inl none
      | called entry world =>
        obtain ⟨step, member, args, d, earlier, found, rfl, last⟩ :=
          rest.opened_of_call (set (.called entry world) (by simp))
        exact .inr ⟨step, member, args, d, world, later, earlier, rfl, none, found, last⟩
  refine ⟨rest.no_start set, calls, ?_, ?_⟩
  · intro entry world last
    refine calls.resolve_right ?_
    rintro ⟨_, _, _, _, _, _, _, _, _, _, last'⟩
    rw [last] at last'
    cases last'
  · -- Steps with the same id are the same step, and this one's tool is not delegated.
    intro step member world nested last
    refine calls.resolve_right ?_
    rintro ⟨other, member', _, _, _, _, _, _, _, found, last'⟩
    rw [last, Option.some.injEq, Happening.emitted.injEq, Notice.status.injEq] at last'
    have same : step.id = other.id := congrArg StatusEvent.step last'.1
    obtain rfl := List.inj_on_of_nodup_map distinct member member' same
    simp [Engine.delegation?, nested] at found

end

namespace Run
open Execution

variable {learning : Learning} {invoke : Invoker σ} {caller : Caller σ} {interim : Interim σ}

/-- Once some steps are completed, what is left of the run is what is left of its steps. -/
theorem Completed.takeAmid_eq {k : Nat} {p q : Progress} {s t : Session σ}
    {done : List (Step × Value)}
    (completed : Completed learning invoke caller interim k p s done q t) (rest : List Step)
    (n : Nat) :
    Phase.takeAmid (executeStep learning invoke) caller interim (2 * done.length + n) k
        (.before (done.map Prod.fst ++ rest) p) s =
      let later := Phase.takeAmid (executeStep learning invoke) caller interim n
        (k + 2 * done.length) (.before rest q) t
      ((stages done).map Notice.status ++ later.1, later.2) := by
  induction completed with
  | none k p s => simp [stages]
  | @next k p q s called after t step raw done unset answers settled _ ih =>
    have executed : executeStep learning invoke p.outputs p.producers caller step (interim k s) =
        (.ok (Envelope.unwrap raw), after) := (executeStep_of_answers answers).trans settled
    -- A completed step takes two pulls, the start and the execution.
    rw [show 2 * ((step, raw) :: done).length + n = (2 * done.length + n) + 2 by
        simp only [List.length_cons]; omega,
      show k + 2 * ((step, raw) :: done).length = k + 2 + 2 * done.length by
        simp only [List.length_cons]; omega,
      List.map_cons, List.cons_append, Phase.takeAmid_of_completed unset executed, ih]
    simp [stages]

/-- A stream whose host has received the stages of some steps goes on with the rest. -/
theorem Completed.drainAmid_eq {program : Program} {p : Progress} {s t : Session σ}
    {done : List (Step × Value)} {rest : List Step}
    (split : program.steps = done.map Prod.fst ++ rest)
    (completed : Completed learning invoke caller interim 0 .initial
      (s.note (.running program.steps.length)) done p t) :
    Phase.drainAmid (executeStep learning invoke) caller interim (.submitted (.ok program)) s =
      let later := Phase.takeAmid (executeStep learning invoke) caller interim
        (2 * rest.length + 1) (2 * done.length) (.before rest p) t
      ((stages done).map Notice.status ++ later.1, later.2) := by
  have whole := completed.takeAmid_eq rest (2 * rest.length + 1)
  rw [Nat.zero_add, ← split] at whole
  have bound : (Phase.submitted (.ok program)).bound = 2 * done.length + (2 * rest.length + 1) := by
    simp only [Phase.bound, split, List.length_append, List.length_map]
    omega
  rw [Phase.drainAmid, bound, ← whole]
  rfl

/-- If the step after them does not complete, the stream ends with it. -/
theorem Completed.drainAmid_of_halted {program : Program} {p : Progress} {s t after : Session σ}
    {done : List (Step × Value)} {step : Step} {rest : List Step} {halt : Halt}
    (split : program.steps = done.map Prod.fst ++ step :: rest)
    (completed : Completed learning invoke caller interim 0 .initial
      (s.note (.running program.steps.length)) done p t)
    (unset : caller.canceled t.world = false)
    (halted : executeStep learning invoke p.outputs p.producers caller step
      (interim (2 * done.length) t) = (.error halt, after)) :
    Phase.drainAmid (executeStep learning invoke) caller interim (.submitted (.ok program)) s =
      ((⟨stages done ++ (halt.course step p.outputs).statuses,
          (halt.course step p.outputs).closing⟩ : Course).notices, .closed,
        halt.afterwards interim (2 * done.length + 1) after) := by
  simp only [completed.drainAmid_eq split, Phase.pulls_cons, Phase.takeAmid_of_halted unset halted,
    Course.notices, List.map_append, List.append_assoc]

/-- Once the signal is set for good, no step is started and no tool is called, apart from that of a
top-level step that has been started and does not run a program. A check that sees the signal ends
the run with what the completed steps stored; after the last step there is no check. -/
theorem quiet_once_canceled (engine : Engine σ) (caller : Caller σ) (interim : Interim σ)
    (raw : Value) (s : Session σ) (program : Program) (accepted : Program.read raw = .ok program) :
    (∃ timeline,
      Timeline engine caller interim 0 (.submitted (Program.read raw)) s timeline ∧
      timeline.filterMap Happening.notice? = (Phase.drainAmid engine.execute caller interim
        (.submitted (Program.read raw)) s).1 ∧
      ∀ early late, timeline = early ++ late → (∀ h ∈ late, caller.canceled h.world = true) →
        QuietAfter engine caller program.steps early late) ∧
    ∀ done rest p t, program.steps = done.map Prod.fst ++ rest →
      Completed engine.learning engine.invoke caller interim 0 .initial
        (s.note (.running program.steps.length)) done p t →
      (rest ≠ [] → caller.canceled t.world = true → ∃ after,
        Observed engine caller interim raw s
          ((stages done).map Event.status ++
            [.result (.dict [("error", .str "Workflow cancelled"), ("canceled", .bool true)]) true])
          ⟨.canceled, stored done⟩ after) ∧
      (rest = [] → ∃ after,
        Observed engine caller interim raw s
          ((stages done).map Event.status ++ [.result p.value false])
          ⟨.success p.value, stored done⟩ after) := by
  obtain ⟨_, distinct⟩ := Program.read_wellFormed accepted
  constructor
  · have own : (Phase.submitted (Program.read raw)).pending ⊆ program.steps := by
      rw [accepted]
      exact fun _ member => member
    obtain ⟨timeline, happens, notices, heeded⟩ := exists_timeline engine caller interim 0 s
      (Nat.le_refl (Phase.submitted (Program.read raw)).bound) own
    refine ⟨timeline, happens, notices, ?_⟩
    rintro early late rfl set
    exact quietAfter_of_heeded distinct (heeded none (by rintro _ _ _ ⟨⟩)) set
  · intro done rest p t split completed
    have outputs : p.outputs = stored done := by
      rw [split, List.map_append, List.map_map] at distinct
      exact completed.outputs_eq (List.nodup_append.1 distinct).1
    have drained := completed.drainAmid_eq split
    rw [← accepted] at drained
    constructor
    · intro left set
      obtain ⟨step, others, rfl⟩ := List.exists_cons_of_ne_nil left
      have ended : Phase.pull (executeStep engine.learning engine.invoke) caller
          (.before (step :: others) p) t =
            (some (.ended ⟨.canceled, p.outputs⟩), .closed, t.note (.canceledBefore step.id)) := by
        simp [Phase.pull, Phase.startNext, set]
      simp only [Phase.takeAmid_of_pull _ _ ended, Phase.takeAmid_closed, outputs] at drained
      exact ⟨_, observed_of_drainAmid drained⟩
    · rintro rfl
      have ended : Phase.pull (executeStep engine.learning engine.invoke) caller (.before [] p) t =
          (some (.ended ⟨.success p.value, p.outputs⟩), .closed, t) := rfl
      simp only [Phase.takeAmid_of_pull _ _ ended, Phase.takeAmid_closed, outputs] at drained
      exact ⟨_, observed_of_drainAmid drained⟩

/-- A tool that sets the signal lets the run end before the second step, with its own output. -/
theorem quiet_once_canceled_in_call :
    let raw : Value := .list [.dict [("id", .str "a"), ("tool", .str "t")],
      .dict [("id", .str "b"), ("tool", .str "t")]]
    let engine : Engine Bool :=
      ⟨.standard, [("t", .single ⟨"t", "", []⟩ fun _ _ _ => (.ok (.int 1), true))], ⟨0, 8⟩⟩
    let caller : Caller Bool := ⟨.null, id⟩
    let s : Session Bool := .opening false []
    ∃ after, Observed engine caller .idle raw s
      [.status (.started ⟨"a", "t", [], none, none⟩),
        .status (.completed ⟨"a", "t", [], none, none⟩),
        .result (.dict [("error", .str "Workflow cancelled"), ("canceled", .bool true)]) true]
      ⟨.canceled, [("a", .int 1)]⟩ after := by
  intro raw engine caller s
  have accepted : Program.read raw =
      .ok ⟨[⟨"a", "t", [], none, none⟩, ⟨"b", "t", [], none, none⟩]⟩ := rfl
  have completed : ∃ p t, caller.canceled t.world = true ∧
      Completed engine.learning engine.invoke caller .idle 0 .initial (s.note (.running 2))
        [(⟨"a", "t", [], none, none⟩, .int 1)] p t :=
    ⟨_, _, rfl, .next rfl ⟨[], rfl, rfl⟩ rfl (.none _ _ _)⟩
  obtain ⟨p, t, set, completed⟩ := completed
  exact ((quiet_once_canceled engine caller .idle raw s _ accepted).2 _
    [⟨"b", "t", [], none, none⟩] p t rfl completed).1 (by simp) set

end Run
end Workflow
