import Mathlib.Logic.Function.Basic
import Workflow.Proofs.Run.Abreast
import Workflow.Proofs.Run.Cancellation

/-!
Several streams of one engine. However their pulls are interleaved, each stream gives the notices
and makes the calls of the same program drained alone in a session that has learned nothing, up to
the schemas in failure texts. Each pull keeps the stream abreast of its run alone, and the pulls of
the others leave it there.
-/
namespace Workflow
open Execution

variable {σ : Type}

/-! ### Pulls in two sessions -/

/-- What a run has stored where it stands. -/
def Phase.progress : Phase → Progress
  | .before _ p => p
  | .started _ _ p => p
  | .failed _ _ p => p
  | .submitted _ => .initial
  | .closed => .initial

/-- The first pull comes before the others, also where it gives nothing. -/
theorem Phase.take_succ (execute : Executor σ) (caller : Caller σ) (n : Nat) (phase : Phase)
    (s : Session σ) :
    take execute caller (n + 1) phase s =
      let pulled := pull execute caller phase s
      let later := take execute caller n pulled.2.1 pulled.2.2
      (pulled.1.toList ++ later.1, later.2) := by
  rcases pulled : pull execute caller phase s with ⟨notice?, next, after⟩
  cases notice? with
  | none =>
    obtain rfl : phase = .closed := eq_closed_of_pull (congrArg Prod.fst pulled)
    cases pulled
    simp [take_closed]
  | some notice => rw [take_of_pull n pulled]; rfl

namespace Engine

variable {engine : Engine σ} {caller : Caller σ} {quiet : σ → Prop}
  {history : List (String × Schema)} {s s' : Session σ}

theorem take_works (engine : Engine σ) (caller : Caller σ) (n : Nat) (phase : Phase)
    (s : Session σ) :
    ∃ trace, engine.Works caller.context s trace (phase.take engine.execute caller n s).2.2 := by
  induction n generalizing phase s with
  | zero => exact ⟨[], .idle s⟩
  | succ n ih =>
    obtain ⟨trace, work⟩ := engine.pull_works caller phase s
    rw [Phase.take_succ]
    obtain ⟨later, rest⟩ := ih (phase.pull engine.execute caller s).2.1
      (phase.pull engine.execute caller s).2.2
    exact ⟨trace ++ later, work.trans rest⟩

/-- Pulls beyond the bound give nothing more. -/
theorem take_of_bound_le (engine : Engine σ) (caller : Caller σ) (n : Nat) (phase : Phase)
    (s : Session σ) (enough : phase.bound ≤ n) :
    phase.take engine.execute caller n s = phase.take engine.execute caller phase.bound s := by
  induction n using Nat.strongRecOn generalizing phase s with
  | _ n ih =>
    cases bound : phase.bound with
    | zero =>
      obtain rfl := Phase.eq_closed_of_bound bound
      rw [Phase.take_closed, Phase.take_closed]
    | succ b =>
      obtain ⟨m, rfl⟩ : ∃ m, n = m + 1 := ⟨n - 1, by omega⟩
      rcases pulled : phase.pull engine.execute caller s with ⟨notice?, next, after⟩
      have nearer : next.bound ≤ b := by
        cases notice? with
        | none =>
          obtain rfl : phase = .closed := Phase.eq_closed_of_pull (congrArg Prod.fst pulled)
          cases bound
        | some notice =>
          have less := (turn_of_pull pulled).bound_lt
          omega
      simp only [Phase.take_succ, pulled]
      rw [ih m (by omega) next after (by omega), ih b (by omega) next after nearer]

/-- What a pull gives in one session is alike to what it gives in the other, and leaves the runs
abreast. -/
structure AbreastPulls (engine : Engine σ) (caller : Caller σ) (extra : String → Prop)
    (s s' : Session σ) (pulled pulled' : Option Notice × Phase × Session σ) : Prop where
  notice : Option.Rel (Notice.Alike extra) pulled.1 pulled'.1
  phase : Phase.Alike extra pulled.2.1 pulled'.2.1
  session : engine.Abreast caller.context extra s s' pulled.2.2 pulled'.2.2
  knows : engine.Knows pulled.2.1.progress pulled.2.2
  knows' : engine.Knows pulled'.2.1.progress pulled'.2.2

/-- A check finds the signal unset in both sessions. -/
theorem startNext_abreast (repeats : engine.Repeats caller quiet)
    (steady : engine.Steady quiet history s) (fresh : engine.Steady quiet [] s') (steps : List Step)
    {p : Progress} (knows : engine.Knows p s) (knows' : engine.Knows p s') :
    engine.AbreastPulls caller (engine.OwnLearned history) s s' (Phase.startNext caller steps p s)
      (Phase.startNext caller steps p s') := by
  have unset := repeats.unset s.world steady.quiet
  have unset' := repeats.unset s'.world fresh.quiet
  cases steps with
  | nil => exact ⟨.some (.same _), .same _, .idle s s', knows_initial s, knows_initial s'⟩
  | cons step rest =>
    simp only [Phase.startNext, unset, unset', Bool.false_eq_true, if_false]
    exact ⟨.some (.same _), .same _, .idle s s', knows, knows'⟩

theorem pull_abreast {phase phase' : Phase} (repeats : engine.Repeats caller quiet)
    (steady : engine.Steady quiet history s) (fresh : engine.Steady quiet [] s')
    (alike : Phase.Alike (engine.OwnLearned history) phase phase')
    (knows : engine.Knows phase.progress s) (knows' : engine.Knows phase'.progress s')
    (never : engine.NeverAsked (phase'.pull engine.execute caller s').2.2) :
    engine.AbreastPulls caller (engine.OwnLearned history) s s'
      (phase.pull engine.execute caller s) (phase'.pull engine.execute caller s') := by
  cases alike with
  | failed step p texts =>
    exact ⟨.some (.ended (.failed (some step.id) p.outputs texts)), .same _, .idle s s',
      knows_initial s, knows_initial s'⟩
  | same =>
    match phase with
    | .closed => exact ⟨.none, .same _, .idle s s', knows, knows'⟩
    | .failed step message p =>
      exact ⟨.some (.same _), .same _, .idle s s', knows_initial s, knows_initial s'⟩
    | .submitted (.error (.raised cause)) =>
      exact ⟨.some (.same _), .same _, .idle s s', knows, knows'⟩
    | .submitted (.error .noSteps) =>
      exact ⟨.some (.same _), .same _, .note s s' (.same _) rfl rfl, knows_initial _,
        knows_initial _⟩
    | .submitted (.error (.invalid problems)) =>
      exact ⟨.some (.same _), .same _, .note s s' (.same _) rfl rfl, knows_initial _,
        knows_initial _⟩
    | .submitted (.ok program) =>
      have begun := startNext_abreast repeats (steady.note (.running program.steps.length))
        (fresh.note (.running program.steps.length)) program.steps (knows_initial _)
        (knows_initial _)
      exact ⟨begun.notice, begun.phase, (Abreast.note s s' (.same _) rfl rfl).trans begun.session,
        begun.knows, begun.knows'⟩
    | .before steps p => exact startNext_abreast repeats steady fresh steps knows knows'
    | .started step rest p =>
      change engine.Knows p s at knows
      change engine.Knows p s' at knows'
      have heeds := engine.invoke_heeds caller
      have executed :=
        executeStep_abreast heeds (invoke_inStep repeats) steady fresh knows knows' step
      rcases result : engine.execute p.outputs p.producers caller step s with ⟨answer, after⟩
      rcases result' : engine.execute p.outputs p.producers caller step s' with ⟨answer', after'⟩
      simp only [execute] at result result'
      rw [result, result'] at executed
      simp only [Phase.pull, execute, result, result'] at never ⊢
      have never' : engine.NeverAsked after' := by
        cases answer' <;> exact never
      obtain ⟨results, ran⟩ := executed never'
      obtain ⟨_, _, work, work', _⟩ := id ran
      cases results with
      | failed texts =>
        exact ⟨.some (.failed step texts), .failed step p texts, ran, work.knows knows,
          work'.knows knows'⟩
      | raised cause =>
        exact ⟨.some (.same _), .same _, ran, knows_initial _, knows_initial _⟩
      | ok value =>
        exact ⟨.some (.same _), .same _, ran, knows_store heeds knows result,
          knows_store heeds knows' result'⟩

end Engine

/-! ### Interleavings -/

/-- A pull of one of several streams, and the entries that it left in the journal. -/
structure Pulled (ι : Type) where
  stream : ι
  notice? : Option Notice
  entries : List Entry

section
variable {ι : Type} [DecidableEq ι]

/-- Pulls streams of an engine in an order. -/
def Engine.interleave (engine : Engine σ) (callers : ι → Caller σ) :
    List ι → (ι → Phase) → Session σ → List (Pulled ι)
  | [], _, _ => []
  | i :: order, phases, s =>
    let (notice?, next, after) := (phases i).pull engine.execute (callers i) s
    ⟨i, notice?, s.since after⟩ ::
      engine.interleave callers order (Function.update phases i next) after

/-- The pulls of one stream. -/
def ofStream (i : ι) (pulls : List (Pulled ι)) : List (Pulled ι) :=
  pulls.filter fun pulled => pulled.stream = i

def noticesOf (pulls : List (Pulled ι)) : List Notice := pulls.filterMap Pulled.notice?

def entriesOf (pulls : List (Pulled ι)) : List Entry := pulls.flatMap Pulled.entries

@[simp]
theorem ofStream_cons_self (i : ι) (notice? : Option Notice) (entries : List Entry)
    (pulls : List (Pulled ι)) :
    ofStream i (⟨i, notice?, entries⟩ :: pulls) = ⟨i, notice?, entries⟩ :: ofStream i pulls := by
  simp [ofStream]

theorem ofStream_cons_of_ne {i j : ι} (other : i ≠ j) (notice? : Option Notice)
    (entries : List Entry) (pulls : List (Pulled ι)) :
    ofStream i (⟨j, notice?, entries⟩ :: pulls) = ofStream i pulls := by
  simp [ofStream, Ne.symm other]

omit [DecidableEq ι] in
@[simp]
theorem noticesOf_cons (pulled : Pulled ι) (pulls : List (Pulled ι)) :
    noticesOf (pulled :: pulls) = pulled.notice?.toList ++ noticesOf pulls := by
  unfold noticesOf
  rw [List.filterMap_cons]
  cases pulled.notice? <;> rfl

omit [DecidableEq ι] in
@[simp]
theorem entriesOf_cons (pulled : Pulled ι) (pulls : List (Pulled ι)) :
    entriesOf (pulled :: pulls) = pulled.entries ++ entriesOf pulls := by
  simp [entriesOf]

variable {engine : Engine σ} {callers : ι → Caller σ} {quiet : σ → Prop}
  {history : List (String × Schema)}

/-- Streams in one session, and each of them alone in a session of its own. -/
structure Engine.Apart (engine : Engine σ) (quiet : σ → Prop) (history : List (String × Schema))
    (phases : ι → Phase) (s : Session σ) (phases' : ι → Phase) (alone : ι → Session σ) : Prop where
  steady : engine.Steady quiet history s
  fresh : ∀ i, engine.Steady quiet [] (alone i)
  alike : ∀ i, Phase.Alike (engine.OwnLearned history) (phases i) (phases' i)
  knows : ∀ i, engine.Knows (phases i).progress s
  knows' : ∀ i, engine.Knows (phases' i).progress (alone i)

/-- A pull keeps every stream beside its run alone. -/
theorem Engine.Apart.pull {phases phases' : ι → Phase} {s : Session σ} {alone : ι → Session σ}
    (apart : engine.Apart quiet history phases s phases' alone)
    (repeats : ∀ i, engine.Repeats (callers i) quiet) (i : ι) {next next' : Phase}
    {after after' : Session σ} {notice? notice?' : Option Notice}
    (pulls : engine.AbreastPulls (callers i) (engine.OwnLearned history) s (alone i)
      (notice?, next, after) (notice?', next', after')) :
    engine.Apart quiet history (Function.update phases i next) after
      (Function.update phases' i next') (Function.update alone i after') := by
  obtain ⟨_, _, work, work', _⟩ := pulls.session
  refine ⟨work.steady (repeats i) apart.steady, ?_, ?_, ?_, ?_⟩
  all_goals
    intro j
    by_cases same : j = i
  · subst same
    simpa using work'.steady (repeats j) (apart.fresh j)
  · simpa [same] using apart.fresh j
  · subst same
    simpa using pulls.phase
  · simpa [same] using apart.alike j
  · subst same
    simpa using pulls.knows
  · simpa [same] using work.knows (apart.knows j)
  · subst same
    simpa using pulls.knows'
  · simpa [same] using apart.knows' j

/-- Each stream gives the notices and leaves the entries of its run alone. -/
theorem Engine.Apart.interleave (repeats : ∀ i, engine.Repeats (callers i) quiet) (order : List ι)
    {phases phases' : ι → Phase} {s : Session σ} {alone : ι → Session σ}
    (apart : engine.Apart quiet history phases s phases' alone)
    (never : ∀ i, engine.NeverAsked
      ((phases' i).take engine.execute (callers i) (order.count i) (alone i)).2.2) (i : ι) :
    List.Forall₂ (Notice.Alike (engine.OwnLearned history))
        (noticesOf (ofStream i (engine.interleave callers order phases s)))
        ((phases' i).take engine.execute (callers i) (order.count i) (alone i)).1 ∧
      List.Forall₂ (Entry.Alike (engine.OwnLearned history))
        (entriesOf (ofStream i (engine.interleave callers order phases s)))
        ((alone i).since
          ((phases' i).take engine.execute (callers i) (order.count i) (alone i)).2.2) := by
  induction order generalizing phases phases' s alone with
  | nil => simp [Engine.interleave, ofStream, noticesOf, entriesOf, Phase.take, Session.since]
  | cons j order ih =>
    rcases pulled : (phases j).pull engine.execute (callers j) s with ⟨notice?, next, after⟩
    rcases pulled' : (phases' j).pull engine.execute (callers j) (alone j)
      with ⟨notice?', next', after'⟩
    have taken : (phases' j).take engine.execute (callers j) ((j :: order).count j) (alone j) =
        (notice?'.toList ++ (next'.take engine.execute (callers j) (order.count j) after').1,
          (next'.take engine.execute (callers j) (order.count j) after').2) := by
      rw [List.count_cons_self, Phase.take_succ, pulled']
    obtain ⟨_, rest⟩ := engine.take_works (callers j) (order.count j) next' after'
    have neverLater : engine.NeverAsked
        (next'.take engine.execute (callers j) (order.count j) after').2.2 := by
      have asked := never j
      rwa [taken] at asked
    have pulls := Engine.pull_abreast (repeats j) apart.steady (apart.fresh j) (apart.alike j)
      (apart.knows j) (apart.knows' j) (by rw [pulled']; exact rest.neverAsked neverLater)
    rw [pulled, pulled'] at pulls
    -- The induction is on the order: the pulled stream goes on from where this pull has brought its
    -- run alone, and the others from where they are.
    have later := ih (apart.pull repeats j pulls) (fun k => by
      by_cases same : k = j
      · subst same
        simpa using neverLater
      · simpa [same, List.count_cons_of_ne (Ne.symm same)] using never k)
    by_cases same : i = j
    · subst same
      obtain ⟨_, _, _, work', _⟩ := id pulls.session
      simp only [Function.update_self] at later
      have first : List.Forall₂ (Notice.Alike (engine.OwnLearned history)) notice?.toList
          notice?'.toList := by
        cases pulls.notice with
        | none => exact .nil
        | some alike => exact .cons alike .nil
      rw [taken, Engine.interleave, pulled]
      simp only [ofStream_cons_self, noticesOf_cons, entriesOf_cons, work'.since_append rest]
      exact ⟨List.rel_append first later.1,
        List.rel_append (Engine.Abreast.since pulls.session) later.2⟩
    · simp only [Function.update_of_ne same] at later
      rw [List.count_cons_of_ne (Ne.symm same), Engine.interleave, pulled]
      rw [ofStream_cons_of_ne same]
      exact later

end

/-- Alike entries are the same calls. -/
theorem Entry.Alike.filter_isCall {extra : String → Prop} {entries entries' : List Entry}
    (alike : List.Forall₂ (Entry.Alike extra) entries entries') :
    entries.filter Entry.isCall = entries'.filter Entry.isCall := by
  induction alike with
  | nil => rfl
  | cons first _ ih =>
    cases first with
    | same entry => rw [List.filter_cons, List.filter_cons, ih]
    | failed step tool texts => exact ih

namespace Run

variable {ι : Type} [DecidableEq ι]

/-- However the pulls of some streams are interleaved, and whatever has been learned before, a
stream gives the notices, makes the calls and stores the outputs of the same program alone in a
session that has learned nothing, up to the schemas in failure texts. It does all that draining the
program alone does as soon as it has been pulled often enough. -/
theorem interleaved_as_alone (engine : Engine σ) (callers : ι → Caller σ) (quiet : σ → Prop)
    (raws : ι → Value) (order : List ι) (s : Session σ) (alone : ι → Session σ)
    (repeats : ∀ i, engine.Repeats (callers i) quiet) (start : quiet s.world)
    (fresh : ∀ i, quiet (alone i).world ∧ (alone i).learned = [])
    (never : ∀ i, engine.NeverAsked (Phase.take engine.execute (callers i) (order.count i)
      (.submitted (Program.read (raws i))) (alone i)).2.2) (i : ι) :
    let pulls := ofStream i
      (engine.interleave callers order (fun i => .submitted (Program.read (raws i))) s)
    let lone := Phase.take engine.execute (callers i) (order.count i)
      (.submitted (Program.read (raws i))) (alone i)
    List.Forall₂ (Notice.Alike (engine.OwnLearned s.learned)) (noticesOf pulls) lone.1 ∧
    List.Forall₂ (Entry.Alike (engine.OwnLearned s.learned)) (entriesOf pulls)
      ((alone i).since lone.2.2) ∧
    (entriesOf pulls).filter Entry.isCall = ((alone i).since lone.2.2).filter Entry.isCall ∧
    ((Phase.submitted (Program.read (raws i))).bound ≤ order.count i →
      Phase.drain engine.execute (callers i) (.submitted (Program.read (raws i))) (alone i) =
        (lone.1, lone.2.2)) := by
  intro pulls lone
  have apart : engine.Apart quiet s.learned (fun i => .submitted (Program.read (raws i))) s
      (fun i => .submitted (Program.read (raws i))) alone := by
    refine ⟨⟨start, fun _ _ => rfl⟩, fun i => ⟨(fresh i).1, fun tool _ => ?_⟩, fun i => .same _,
      fun i => Engine.knows_initial s, fun i => Engine.knows_initial (alone i)⟩
    rw [(fresh i).2]
  obtain ⟨notices, entries⟩ := apart.interleave repeats order never i
  refine ⟨notices, entries, Entry.Alike.filter_isCall entries, fun enough => ?_⟩
  have taken : lone = _ := engine.take_of_bound_le (callers i) _ _ (alone i) enough
  rw [taken]
  rfl

/-- Two streams of a program that fails for a missing key, in a session that has learned a
schema. -/
theorem interleaved_as_alone_pair :
    let raw : Value := .list [.dict [("id", .str "a"), ("tool", .str "t")],
      .dict [("id", .str "b"), ("tool", .str "t"),
        ("args", .dict [("x", .str "\x7b\x7ba.k\x7d\x7d")])]]
    let engine : Engine Unit :=
      ⟨.standard, [("t", .single ⟨"t", "", []⟩ fun _ _ w => (.ok (.int 1), w))], ⟨1, 8⟩⟩
    let callers : Bool → Caller Unit := fun i => ⟨.bool i, fun _ => false⟩
    let order := [true, false, false, true, true, false, true, true, false]
    let s : Session Unit := ⟨(), [("t", .emptyArray)], []⟩
    let alone : Bool → Session Unit := fun _ => .opening () []
    (∀ i, engine.Repeats (callers i) fun _ => True) ∧
      (∀ i, engine.NeverAsked (Phase.take engine.execute (callers i) (order.count i)
        (.submitted (Program.read raw)) (alone i)).2.2) ∧
      List.Forall₂ (Notice.Alike (engine.OwnLearned s.learned))
        (noticesOf (ofStream true
          (engine.interleave callers order (fun _ => .submitted (Program.read raw)) s)))
        (Phase.drain engine.execute (callers true) (.submitted (Program.read raw))
          (alone true)).1 := by
  intro raw engine callers order s alone
  have repeats (i : Bool) : engine.Repeats (callers i) fun _ => True :=
    ⟨fun _ _ _ _ _ _ _ _ => rfl, fun _ _ _ _ _ _ => trivial, fun _ _ => rfl⟩
  have never (i : Bool) : engine.NeverAsked (Phase.take engine.execute (callers i) (order.count i)
      (.submitted (Program.read raw)) (alone i)).2.2 := by
    obtain ⟨message, journal⟩ : ∃ message, (Phase.take engine.execute (callers i) (order.count i)
        (.submitted (Program.read raw)) (alone i)).2.2.journal =
          [.running 2, .invoking "t" "a", .called "t" "t" (.dict []) (.bool i), .recorded "t",
            .completed "a" "t" (.int 1), .failed "b" "t" message] := by
      cases i <;> exact ⟨_, rfl⟩
    intro tool step member
    rw [journal] at member
    obtain ⟨rfl, rfl⟩ : tool = "t" ∧ step = "a" := by simpa using member
    rintro ⟨⟩
  have result := interleaved_as_alone engine callers (fun _ => True) (fun _ => raw) order s alone
    repeats trivial (fun _ => ⟨trivial, rfl⟩) never true
  refine ⟨repeats, never, ?_⟩
  rw [result.2.2.2 (by decide)]
  exact result.1

/-- A schema learned under the name of the engine's own tool shows in a failure text. -/
theorem own_schema_shows :
    let raw : Value := .list [
      .dict [("id", .str "n"), ("tool", .str "code_exec_run_program"),
        ("args", .dict [("steps", .list [.dict [("id", .str "i"), ("tool", .str "t")]])])],
      .dict [("id", .str "b"), ("tool", .str "t"),
        ("args", .dict [("v", .str "\x7b\x7bn.nope\x7d\x7d")])]]
    let engine : Engine Unit := ⟨.standard, Engine.ownRoutes .standard ++
      [("t", .single ⟨"t", "", []⟩ fun _ _ w => (.ok (.int 1), w))], ⟨1, 8⟩⟩
    let caller : Caller Unit := ⟨.null, fun _ => false⟩
    let s : Session Unit := ⟨(), [("code_exec_run_program", .leaf "number")], []⟩
    let alone : Session Unit := .opening () []
    engine.Repeats caller (fun _ => True) ∧
      engine.NeverAsked
        (Phase.drain engine.execute caller (.submitted (Program.read raw)) alone).2 ∧
      ¬List.Forall₂ (Notice.Alike fun _ => False)
        (noticesOf (ofStream () (engine.interleave (fun _ => caller) (List.replicate 5 ())
          (fun _ => .submitted (Program.read raw)) s)))
        (Phase.drain engine.execute caller (.submitted (Program.read raw)) alone).1 := by
  intro raw engine caller s alone
  have never : engine.NeverAsked
      (Phase.drain engine.execute caller (.submitted (Program.read raw)) alone).2 := by
    obtain ⟨message, journal⟩ : ∃ message,
        (Phase.drain engine.execute caller (.submitted (Program.read raw)) alone).2.journal =
          [.running 2, .invoking "code_exec_run_program" "n", .running 1, .invoking "t" "i",
            .called "t" "t" (.dict []) .null, .recorded "t", .completed "i" "t" (.int 1),
            .completed "n" "code_exec_run_program" (.int 1), .failed "b" "t" message] := ⟨_, rfl⟩
    intro tool step member
    rw [journal] at member
    obtain ⟨rfl, _⟩ | ⟨rfl, _⟩ : tool = "code_exec_run_program" ∧ step = "n" ∨
        tool = "t" ∧ step = "i" := by
      simpa using member
    · rintro ⟨⟩
    · rintro ⟨⟩
  refine ⟨⟨fun _ _ _ _ _ _ _ _ => rfl, fun _ _ _ _ _ _ => trivial, fun _ _ => rfl⟩, never, ?_⟩
  intro alike
  let plain := "Failed to resolve variables for step \"b\": \x7b\x7bn.nope\x7d\x7d: " ++
    "cannot read \"nope\": n is a number value (\"number\") and has no addressable sub-properties"
  obtain ⟨_, _, _, _, hinted⟩ : ∃ first second third fourth,
      noticesOf (ofStream () (engine.interleave (fun _ => caller) (List.replicate 5 ())
        (fun _ => .submitted (Program.read raw)) s)) =
      [first, second, third, fourth, .ended ⟨.failed
        (plain ++ hintText "code_exec_run_program" (.leaf "number")) (some "b"),
          [("n", .int 1)]⟩] :=
    ⟨_, _, _, _, rfl⟩
  obtain ⟨_, _, _, _, bare⟩ : ∃ first second third fourth,
      (Phase.drain engine.execute caller (.submitted (Program.read raw)) alone).1 =
      [first, second, third, fourth, .ended ⟨.failed plain (some "b"), [("n", .int 1)]⟩] :=
    ⟨_, _, _, _, rfl⟩
  rw [hinted, bare] at alike
  simp only [List.forall₂_cons] at alike
  have texts := Notice.Alike.texts alike.2.2.2.2.1
  exact absurd (texts.eq_of_no_mark (by decide +kernel)) (by decide +kernel)

end Run
end Workflow
