import Workflow.Proofs.Host.Usage
import Workflow.Proofs.Run.Boundary
import Workflow.Proofs.Run.Cancellation

/-!
The work that is done for each event of a stream. Events that start a step or end the run cost
nothing, and every other one executes the step whose start was the event before it. So a stream that
is closed early leaves what a drain has done at that event, and every other way to run the program
leaves what a drain does.
-/
namespace Workflow
open Execution

variable {σ : Type}

namespace Session

/-- Tools have not been called, their world is the same, and nothing has been learned. -/
structure Untouched (s t : Session σ) : Prop where
  called : t.called = s.called
  world : t.world = s.world
  learned : t.learned = s.learned

theorem Untouched.refl (s : Session σ) : s.Untouched s := ⟨rfl, rfl, rfl⟩

theorem untouched_note {entry : Entry} (plain : entry.isCall = false) (s : Session σ) :
    s.Untouched (s.note entry) :=
  ⟨called_note plain s, rfl, rfl⟩

theorem Untouched.trans {s t u : Session σ} (first : s.Untouched t) (second : t.Untouched u) :
    s.Untouched u :=
  ⟨second.called.trans first.called, second.world.trans first.world,
    second.learned.trans first.learned⟩

/-- The world changes by itself. -/
def elapse (change : σ → σ) (s : Session σ) : Session σ := { s with world := change s.world }

end Session

/-! ### Steps -/

namespace Engine

/-- Between two sessions a step was executed: its arguments do not resolve and no tool was called,
or the tool that it names was called with them, and no other. -/
inductive CallsRoute (engine : Engine σ) (caller : Caller σ) (outputs : Outputs) (step : Step)
    (s after : Session σ) : Prop
  | unresolved {e : ResolveError} :
    Template.resolveEntries outputs step.args = .error e →
    s.Untouched after →
    CallsRoute engine caller outputs step s after
  | invoked {args : List (String × Value)} {answer : Except Thrown Value} {called : Session σ} :
    Template.resolveEntries outputs step.args = .ok args →
    engine.invoke step.tool (.dict args) caller (s.note (.invoking step.tool step.id)) =
      (answer, called) →
    after.called = called.called →
    after.world = called.world →
    CallsRoute engine caller outputs step s after

theorem execute_callsRoute (engine : Engine σ) (caller : Caller σ) (outputs : Outputs)
    (producers : List (String × String)) (step : Step) (s : Session σ) :
    engine.CallsRoute caller outputs step s
      (engine.execute outputs producers caller step s).2 := by
  cases resolved : Template.resolveEntries outputs step.args with
  | error e =>
    refine .unresolved resolved ?_
    simp only [execute, executeStep, resolved]
    exact Session.untouched_note rfl s
  | ok args =>
    rw [execute, executeStep_of_resolved resolved]
    obtain ⟨called, world⟩ := conclude_kept engine.learning step
      (engine.invoke step.tool (.dict args) caller (s.note (.invoking step.tool step.id))).1
      (engine.invoke step.tool (.dict args) caller (s.note (.invoking step.tool step.id))).2
    exact .invoked resolved rfl called world

end Engine

/-! ### Events -/

/-- What an event of a stream is and what is done for it, in a run of some steps. Events and steps
are counted from zero: an event with an even number starts the step of half this number or ends the
run, and is given without any work; the next one settles this step and executes it. An exception
that leaves the step then comes in place of an event. -/
inductive Share (engine : Engine σ) (caller : Caller σ) (steps : List Step) :
    Nat → Session σ → Except Thrown Event → Session σ → Prop
  | starts {k : Nat} {step : Step} {s after : Session σ} :
    steps[k]? = some step →
    caller.canceled s.world = false →
    s.Untouched after →
    Share engine caller steps (2 * k) s (.ok (.status (.started step))) after
  | ends {k : Nat} (outcome : Outcome) {s after : Session σ} :
    s.Untouched after →
    Share engine caller steps (2 * k) s (.ok (.result outcome.payload outcome.isCanceled)) after
  | fails {k : Nat} {step : Step} {outputs : Outputs} {producers : List (String × String)}
      {message : String} {s after : Session σ} :
    steps[k]? = some step →
    Entries.keys outputs = (steps.take k).map Step.id →
    engine.execute outputs producers caller step s = (.error (.failed message), after) →
    engine.CallsRoute caller outputs step s after →
    Share engine caller steps (2 * k + 1) s (.ok (.status (.failed step message))) after
  | raises {k : Nat} {step : Step} {outputs : Outputs} {producers : List (String × String)}
      {cause : Thrown} {s after : Session σ} :
    steps[k]? = some step →
    Entries.keys outputs = (steps.take k).map Step.id →
    engine.execute outputs producers caller step s = (.error (.raised cause), after) →
    engine.CallsRoute caller outputs step s after →
    Share engine caller steps (2 * k + 1) s (.error cause) after
  | completes {k : Nat} {step : Step} {outputs : Outputs} {producers : List (String × String)}
      {value : Value} {s after : Session σ} :
    steps[k]? = some step →
    Entries.keys outputs = (steps.take k).map Step.id →
    engine.execute outputs producers caller step s = (.ok value, after) →
    engine.CallsRoute caller outputs step s after →
    Share engine caller steps (2 * k + 1) s (.ok (.status (.completed step))) after

/-- Where a run of some steps stands when its event of some number is due. -/
inductive Due (steps : List Step) : Nat → Phase → Prop
  | submitted : Due steps 0 (.submitted (.ok ⟨steps⟩))
  | before {done left : List Step} {p : Progress} :
    steps = done ++ left →
    Entries.keys p.outputs = done.map Step.id →
    Due steps (2 * done.length) (.before left p)
  | started {done rest : List Step} {step : Step} {p : Progress} :
    steps = done ++ step :: rest →
    Entries.keys p.outputs = done.map Step.id →
    Due steps (2 * done.length + 1) (.started step rest p)
  | failed {k : Nat} {step : Step} {message : String} {p : Progress} :
    Due steps (2 * k) (.failed step message p)
  | closed (n : Nat) : Due steps n .closed

/-- The next event of a run, as it is due. -/
structure Gives (engine : Engine σ) (caller : Caller σ) (steps : List Step) (n : Nat)
    (phase : Phase) (s : Session σ) (notice : Notice) (next : Phase) (after : Session σ) :
    Prop where
  pulled : phase.pull engine.execute caller s = (some notice, next, after)
  due : Due steps (n + 1) next
  share : Share engine caller steps n s (Event.ofNotice notice) after

namespace Due

variable {engine : Engine σ} {caller : Caller σ} {steps : List Step}

theorem gives_of_check (done : List Step) {left : List Step} {p : Progress} {phase : Phase}
    {s checked : Session σ} (split : steps = done ++ left)
    (keys : Entries.keys p.outputs = done.map Step.id) (untouched : s.Untouched checked)
    (pull : phase.pull engine.execute caller s = Phase.startNext caller left p checked) :
    ∃ notice next after,
      Gives engine caller steps (2 * done.length) phase s notice next after := by
  cases left with
  | nil => exact ⟨_, _, _, pull, .closed _, .ends _ untouched⟩
  | cons step rest =>
    have here : steps[done.length]? = some step := by simp [split]
    cases stop : caller.canceled checked.world with
    | true =>
      simp only [Phase.startNext, stop, if_true] at pull
      exact ⟨_, _, _, pull, .closed _,
        .ends ⟨.canceled, p.outputs⟩ (untouched.trans (Session.untouched_note rfl _))⟩
    | false =>
      simp only [Phase.startNext, stop, Bool.false_eq_true, if_false] at pull
      exact ⟨_, _, _, pull, .started split keys,
        .starts here (untouched.world ▸ stop) untouched⟩

/-- An event that is due is given, at the cost of its share. -/
theorem gives (engine : Engine σ) (caller : Caller σ) {n : Nat} {phase : Phase}
    (due : Due steps n phase) (distinct : (steps.map Step.id).Nodup) (open' : phase ≠ .closed)
    (s : Session σ) :
    ∃ notice next after, Gives engine caller steps n phase s notice next after := by
  cases due with
  | submitted =>
    exact gives_of_check [] rfl rfl (Session.untouched_note rfl s) rfl
  | before split keys => exact gives_of_check _ split keys (.refl s) rfl
  | @started done rest step p split keys =>
    have here : steps[done.length]? = some step := by simp [split]
    have earlier : Entries.keys p.outputs = (steps.take done.length).map Step.id := by
      simp [split, keys]
    have routed := engine.execute_callsRoute caller p.outputs p.producers step s
    rcases executed : engine.execute p.outputs p.producers caller step s with ⟨answer, after⟩
    rw [executed] at routed
    cases answer with
    | error halt =>
      have pulled : (Phase.started step rest p).pull engine.execute caller s =
          (some (halt.notice step), halt.phase step p, after) := by
        simp only [Phase.pull, executed]
      cases halt with
      | failed message =>
        have last : Due steps (2 * (done.length + 1)) (.failed step message p) := .failed
        exact ⟨_, _, _, pulled, last, .fails here earlier executed routed⟩
      | raised cause =>
        exact ⟨_, _, _, pulled, .closed _, .raises here earlier executed routed⟩
    | ok value =>
      rw [split, List.map_append, List.map_cons, ← keys] at distinct
      refine ⟨.status (.completed step), .before rest (p.store step value), after, ?_, ?_,
        .completes here earlier executed routed⟩
      · simp only [Phase.pull, executed]
      · have next :
            Due steps (2 * (done ++ [step]).length) (.before rest (p.store step value)) := by
          refine .before (by simp [split]) ?_
          rw [Progress.outputs_store value distinct]
          simpa [Entries.keys] using keys
        rw [List.length_append, List.length_singleton, Nat.mul_add] at next
        exact next
  | failed => exact ⟨_, _, _, rfl, .closed _, .ends ⟨.failed _ _, _⟩ (.refl s)⟩
  | closed => exact absurd rfl open'

end Due

/-! ### Streams -/

/-- A host drains a request: the events that it receives, each with the session in which it does. An
exception may come in place of the last one. The world changes by itself before each pull. -/
inductive Drains (engine : Engine σ) (caller : Caller σ) (changes : Nat → σ → σ) :
    Nat → Request → Session σ → List (Except Thrown Event × Session σ) → Prop
  | closed {n : Nat} {request : Request} {s : Session σ} :
    (∀ t, request.pull engine caller t = (.ok none, request, t)) →
    Drains engine caller changes n request s []
  | event {n : Nat} {request next : Request} {s after : Session σ} {event : Except Thrown Event}
      {later : List (Except Thrown Event × Session σ)} :
    request.pull engine caller (s.elapse (changes n)) = (some <$> event, next, after) →
    Drains engine caller changes (n + 1) next after later →
    Drains engine caller changes n request s ((event, after) :: later)

/-- Every event of a drain is given at the cost of its share. -/
def Shares (engine : Engine σ) (caller : Caller σ) (changes : Nat → σ → σ) (steps : List Step) :
    Nat → Session σ → List (Except Thrown Event × Session σ) → Prop
  | _, _, [] => True
  | n, s, (event, after) :: later =>
    Share engine caller steps n (s.elapse (changes n)) event after ∧
      Shares engine caller changes steps (n + 1) after later

section
variable {engine : Engine σ} {caller : Caller σ} {changes : Nat → σ → σ} {steps : List Step}

/-- A run is drained event by event, as each is due. -/
theorem Due.exists_drains (engine : Engine σ) (caller : Caller σ) (changes : Nat → σ → σ) {n : Nat}
    {phase : Phase} (due : Due steps n phase) (distinct : (steps.map Step.id).Nodup)
    (s : Session σ) :
    ∃ moments, Drains engine caller changes n (.run phase) s moments ∧
      Shares engine caller changes steps n s moments ∧ moments.length ≤ phase.bound := by
  -- Every pull brings the run nearer to its end, so the induction is on what it may still give.
  induction limit : phase.bound using Nat.strongRecOn generalizing n phase s with
  | ind bound ih =>
    by_cases closed : phase = .closed
    · subst closed
      exact ⟨[], .closed fun _ => rfl, trivial, Nat.zero_le _⟩
    · obtain ⟨notice, next, after, pulled, due', share⟩ :=
        due.gives engine caller distinct closed (s.elapse (changes n))
      have nearer := (turn_of_pull pulled).bound_lt
      obtain ⟨later, drains, shares, fewer⟩ := ih next.bound (limit ▸ nearer) due' after rfl
      refine ⟨(Event.ofNotice notice, after) :: later, .event ?_ drains, ⟨share, shares⟩, ?_⟩
      · simp only [Request.pull, pulled]
      · rw [List.length_cons]
        omega

theorem Shares.share {n k : Nat} {s before after : Session σ} {event : Except Thrown Event}
    {moments : List (Except Thrown Event × Session σ)}
    (shares : Shares engine caller changes steps k s moments)
    (session : (s :: moments.map Prod.snd)[n]? = some before)
    (here : moments[n]? = some (event, after)) :
    Share engine caller steps (k + n) (before.elapse (changes (k + n))) event after := by
  induction moments generalizing n k s with
  | nil => simp at here
  | cons first later ih =>
    obtain ⟨share, shares⟩ := shares
    cases n with
    | zero =>
      cases session
      cases here
      exact share
    | succ n =>
      rw [show k + (n + 1) = k + 1 + n by omega]
      exact ih shares session here

/-- A pull that tells nothing finds no event in the run. -/
theorem Request.pull_run_none {phase : Phase} {s after : Session σ} {request : Request}
    (pulled : Request.pull engine caller (.run phase) s = (.ok none, request, after)) :
    ∃ next, request = .run next ∧ phase.pull engine.execute caller s = (none, next, after) := by
  rcases given : phase.pull engine.execute caller s with ⟨notice?, next, final⟩
  simp only [Request.pull, given] at pulled
  cases notice? with
  | none =>
    cases pulled
    exact ⟨next, rfl, rfl⟩
  | some notice => cases told : Event.ofNotice notice <;> simp [told] at pulled

/-- A pull that tells an event, or raises, tells what the run gives. -/
theorem Request.pull_run_some {phase : Phase} {s after : Session σ} {event : Except Thrown Event}
    {request : Request}
    (pulled : Request.pull engine caller (.run phase) s = (some <$> event, request, after)) :
    ∃ notice next, request = .run next ∧
      phase.pull engine.execute caller s = (some notice, next, after) ∧
      Event.ofNotice notice = event := by
  rcases given : phase.pull engine.execute caller s with ⟨notice?, next, final⟩
  simp only [Request.pull, given] at pulled
  cases notice? with
  | none => cases event <;> cases pulled
  | some notice =>
    simp only [Prod.mk.injEq] at pulled
    obtain ⟨told, rfl, rfl⟩ := pulled
    refine ⟨notice, next, rfl, rfl, ?_⟩
    cases event <;> cases said : Event.ofNotice notice <;> rw [said] at told <;> cases told <;> rfl

/-- What is drained while nothing else happens is what the run gives at once. -/
theorem Drains.take_eq {n m : Nat} {request : Request} {s : Session σ}
    {moments : List (Except Thrown Event × Session σ)}
    (drains : Drains engine caller changes n request s moments)
    (still : ∀ n w, changes n w = w) (enough : moments.length ≤ m) {phase : Phase}
    (run : request = .run phase) :
    ∃ notices next after, Phase.take engine.execute caller m phase s = (notices, next, after) ∧
      notices.map Event.ofNotice = moments.map Prod.fst ∧
      (s :: moments.map Prod.snd).getLast? = some after := by
  induction drains generalizing m phase with
  | @closed n request s closed =>
    subst run
    obtain ⟨next, same, pulled⟩ := Request.pull_run_none (closed s)
    cases same
    refine ⟨[], phase, s, ?_, rfl, rfl⟩
    cases m with
    | zero => rfl
    | succ m => simp only [Phase.take, pulled]
  | @event n request next s after event later pull _ ih =>
    subst run
    obtain ⟨m, rfl⟩ : ∃ rest, m = rest + 1 := ⟨m - 1, by simp at enough; omega⟩
    have unchanged : s.elapse (changes n) = s := by simp only [Session.elapse, still]
    rw [unchanged] at pull
    obtain ⟨notice, next', rfl, pulled, rfl⟩ := Request.pull_run_some pull
    obtain ⟨notices, final, last, taken, events, ended⟩ := ih (by simpa using enough) rfl
    refine ⟨notice :: notices, final, last, ?_, by simp [events], ?_⟩
    · rw [Phase.take_of_pull m pulled, taken]
    · rw [List.map_cons, List.getLast?_cons_cons]
      exact ended

end

/-! ### Hosts -/

namespace Usage

/-- A host pulls the stream of number zero some times. The world changes by itself before each pull,
the first of which has the number `k`. -/
def pulling (changes : Nat → σ → σ) : Nat → Nat → List (Operation σ)
  | _, 0 => []
  | k, n + 1 => .elapses (changes k) :: .pulls 0 :: pulling changes (k + 1) n

/-- A host opens a stream, pulls some events, closes it, and still tries to pull it. -/
def cut (request : Request) (caller : Caller σ) (changes : Nat → σ → σ) (n again : Nat) :
    List (Operation σ) :=
  .opens request caller :: pulling changes 0 n ++ .closes 0 :: List.replicate again (.pulls 0)

variable {engine : Engine σ} {caller : Caller σ} {changes : Nat → σ → σ}

theorem pulls_closed (again : Nat) (s : Session σ) :
    ((List.replicate again (.pulls 0)).foldl (perform engine) ⟨s, [(.closed, caller)]⟩) =
      ⟨s, [(.closed, caller)]⟩ := by
  induction again with
  | zero => rfl
  | succ again ih => exact ih

/-- Pulling some events of a stream leaves what its drain has done at the last of them. -/
theorem session_of_pulling {k n : Nat} {request : Request} {s : Session σ}
    {moments : List (Except Thrown Event × Session σ)}
    (drains : Drains engine caller changes k request s moments) (given : n ≤ moments.length) :
    ∃ next, (s :: moments.map Prod.snd)[n]? =
        some ((pulling changes k n).foldl (perform engine) ⟨s, [(request, caller)]⟩).session ∧
      ((pulling changes k n).foldl (perform engine) ⟨s, [(request, caller)]⟩).streams =
        [(next, caller)] := by
  induction drains generalizing n with
  | closed =>
    obtain rfl := Nat.le_zero.1 given
    exact ⟨_, rfl, rfl⟩
  | @event k request next s after event later pull _ ih =>
    cases n with
    | zero => exact ⟨_, rfl, rfl⟩
    | succ n =>
      have pulled : perform engine (perform engine ⟨s, [(request, caller)]⟩ (.elapses (changes k)))
          (.pulls 0) = ⟨after, [(next, caller)]⟩ := by
        have moved : request.pull engine caller { s with world := changes k s.world } =
          (some <$> event, next, after) := pull
        simp [perform, moved]
      simp only [pulling, List.foldl_cons, pulled]
      exact ih (by simpa using given)

/-- A stream that is closed early leaves what its drain has done at the last event pulled. -/
theorem session_of_cut {n again : Nat} {request : Request} {s : Session σ}
    {moments : List (Except Thrown Event × Session σ)}
    (drains : Drains engine caller changes 0 request s moments) (given : n ≤ moments.length) :
    (s :: moments.map Prod.snd)[n]? =
      some (after engine s (cut request caller changes n again)).session := by
  obtain ⟨next, session, streams⟩ := session_of_pulling drains given
  rw [session, after, cut, List.foldl_append, List.foldl_cons, List.foldl_cons]
  have opened : perform engine ⟨s, []⟩ (.opens request caller) = ⟨s, [(request, caller)]⟩ := rfl
  have closed : perform engine
      ((pulling changes 0 n).foldl (perform engine) ⟨s, [(request, caller)]⟩) (.closes 0) =
      ⟨((pulling changes 0 n).foldl (perform engine) ⟨s, [(request, caller)]⟩).session,
        [(.closed, caller)]⟩ := by
    simp [perform, streams]
  rw [opened, closed, pulls_closed]

end Usage

/-- A request that streams the run of a submitted program. -/
inductive Request.Streams (engine : Engine σ) (raw : Value) : Request → Prop
  | program : Streams engine raw (.ofProgram raw)
  | name : Streams engine raw (.ofName engine (Engine.runName engine.settings) raw)

theorem Request.Streams.eq {engine : Engine σ} {raw : Value} {request : Request}
    (streams : Streams engine raw request) : request = .run (.submitted (Program.read raw)) := by
  cases streams with
  | program => rfl
  | name => exact ofName_runName engine raw

/-- Every way to run a program to its end leaves a session, and tells the payload of an outcome or
raises what closes the run. -/
structure EndsAlike (engine : Engine σ) (caller : Caller σ) (raw : Value) (s after : Session σ)
    (events : List (Except Thrown Event)) (c : Course) : Prop where
  run : engine.run raw caller s = (c.report, after)
  payload : engine.runProgram raw caller s = (c.closing.map Outcome.payload, after)
  request : ∀ request, Request.Streams engine raw request →
    request.finish engine caller s = (c.closing.map Outcome.payload, after)
  events : events =
    c.statuses.map (fun status => .ok (.status status)) ++
      [c.closing.map fun outcome => .result outcome.payload outcome.isCanceled]

/-- The events of a course are its statuses and its result, or what it is closed by. -/
theorem Event.map_ofNotice (c : Course) :
    c.notices.map Event.ofNotice =
      c.statuses.map (fun status => .ok (.status status)) ++
        [c.closing.map fun outcome => .result outcome.payload outcome.isCanceled] := by
  rw [Course.notices, List.map_append, List.map_map]
  cases c.closing <;> rfl

theorem Drains.endsAlike {engine : Engine σ} {caller : Caller σ} {changes : Nat → σ → σ}
    {raw : Value} {program : Program} {s : Session σ}
    {moments : List (Except Thrown Event × Session σ)} (accepted : Program.read raw = .ok program)
    (drains : Drains engine caller changes 0 (.run (.submitted (.ok program))) s moments)
    (bounded : moments.length ≤ (Phase.submitted (.ok program)).bound)
    (still : ∀ n w, changes n w = w) :
    ∃ c after, (s :: moments.map Prod.snd).getLast? = some after ∧
      EndsAlike engine caller raw s after (moments.map Prod.fst) c := by
  obtain ⟨notices, next, after, taken, events, ended⟩ := drains.take_eq still bounded rfl
  have drained := Phase.drain_submitted engine.execute caller (.ok program) s
  simp only [Phase.drain, taken, Prod.mk.injEq] at drained
  obtain ⟨rfl, rfl⟩ := drained
  rw [← accepted] at ended events
  refine ⟨(Run.course engine.execute (Program.read raw) caller s).1, _, ended, rfl, ?_,
    fun request streams => ?_, ?_⟩
  · exact Engine.runProgram_eq engine raw caller s
  · rw [streams.eq, Request.finish_submitted]
  · rw [← events, Event.map_ofNotice]

/-- A stream of an accepted program is drained event by event, whatever tools do and however the
world changes between the pulls. Each event has its share of the work; a host that closes the stream
early leaves what has been done for the events that it has pulled; and if nothing else happens, all
ways to run the program do the same and tell the same payload, or raise the same exception. -/
theorem works_as_pulled (engine : Engine σ) (caller : Caller σ) (changes : Nat → σ → σ)
    (raw : Value) (s : Session σ) (program : Program) (accepted : Program.read raw = .ok program) :
    ∃ moments : List (Except Thrown Event × Session σ),
      (∀ request, Request.Streams engine raw request →
        Drains engine caller changes 0 request s moments ∧
        ∀ n ≤ moments.length, ∀ again, (s :: moments.map Prod.snd)[n]? =
          some (Usage.after engine s (Usage.cut request caller changes n again)).session) ∧
      (∀ n before event after, (s :: moments.map Prod.snd)[n]? = some before →
        moments[n]? = some (event, after) →
        Share engine caller program.steps n (before.elapse (changes n)) event after) ∧
      ((∀ n w, changes n w = w) → ∃ c after,
        (s :: moments.map Prod.snd).getLast? = some after ∧
        EndsAlike engine caller raw s after (moments.map Prod.fst) c) := by
  obtain ⟨_, distinct⟩ := Program.read_wellFormed accepted
  obtain ⟨moments, drains, shares, bounded⟩ :=
    Due.submitted.exists_drains engine caller changes distinct s
  refine ⟨moments, fun request streams => ?_, fun n before event after session here => ?_,
    drains.endsAlike accepted bounded⟩
  · have same : request = .run (.submitted (.ok program)) := by rw [streams.eq, accepted]
    subst same
    exact ⟨drains, fun n given again => Usage.session_of_cut drains given⟩
  · have share := shares.share session here
    rwa [Nat.zero_add] at share

/-- A stream that is closed right after it has started its second step has executed the first. -/
theorem works_as_pulled_two_steps :
    let raw : Value := .list [.dict [("id", .str "a"), ("tool", .str "t")],
      .dict [("id", .str "b"), ("tool", .str "t")]]
    let engine : Engine Nat :=
      ⟨.standard, [("t", .single ⟨"t", "", []⟩ fun _ _ w => (.ok (.int 1), w + 1))], ⟨0, 8⟩⟩
    let caller : Caller Nat := ⟨.null, fun _ => false⟩
    let s : Session Nat := .opening 0 []
    ∃ moments, Drains engine caller (fun _ w => w) 0 (.ofProgram raw) s moments ∧
      moments.length = 5 ∧ (s :: moments.map Prod.snd)[3]?.map Session.world = some 1 := by
  intro raw engine caller s
  have accepted : Program.read raw =
      .ok ⟨[⟨"a", "t", [], none, none⟩, ⟨"b", "t", [], none, none⟩]⟩ := rfl
  obtain ⟨moments, streams, _, ends⟩ :=
    works_as_pulled engine caller (fun _ w => w) raw s _ accepted
  obtain ⟨drains, cut⟩ := streams _ .program
  obtain ⟨c, after, _, ended⟩ := ends fun _ _ => rfl
  have counted : (engine.run raw caller s).1.map (fun r => r.statuses.length) = .ok 4 := rfl
  rw [ended.run] at counted
  have length : moments.length = 5 := by
    have events := congrArg List.length ended.events
    have four := (Run.length_of_report c counted).1
    simpa [four] using events
  refine ⟨moments, drains, length, ?_⟩
  rw [cut 3 (by omega) 0]
  rfl

end Workflow
