import Mathlib.Data.List.Basic
import Workflow.Host

/-!
Streams that a host pulls while it does other things. Between two pulls the session may change in
any way: the host sets the signal, uses the tools itself, or pulls another stream. Pulling with
nothing in between is `takeAmid_idle`.
-/
namespace Workflow

/-- What happens to a session once the host has received the event of a given number. -/
abbrev Interim (σ : Type) := Nat → Session σ → Session σ

/-- Nothing happens between the pulls. -/
def Interim.idle {σ : Type} : Interim σ := fun _ s => s

/-- What happens after the event of a given number, with which a step has halted. Only a failure is
followed by a further event. -/
def Halt.afterwards {σ : Type} (interim : Interim σ) (k : Nat) : Halt → Session σ → Session σ
  | failed _, s => interim (k + 1) (interim k s)
  | raised _, s => interim k s

namespace Phase

variable {σ : Type}

/-- At most `n` events, the first of which has the number `k`. -/
def takeAmid (execute : Executor σ) (caller : Caller σ) (interim : Interim σ) :
    Nat → Nat → Phase → Session σ → List Notice × Phase × Session σ
  | 0, _, phase, s => ([], phase, s)
  | n + 1, k, phase, s =>
    match pull execute caller phase s with
    | (none, phase, s) => ([], phase, s)
    | (some notice, phase, s) =>
      let (later, phase, s) := takeAmid execute caller interim n (k + 1) phase (interim k s)
      (notice :: later, phase, s)

/-- All events of a run, and where it stands after them. -/
def drainAmid (execute : Executor σ) (caller : Caller σ) (interim : Interim σ) (phase : Phase)
    (s : Session σ) : List Notice × Phase × Session σ :=
  takeAmid execute caller interim phase.bound 0 phase s

theorem takeAmid_closed (execute : Executor σ) (caller : Caller σ) (interim : Interim σ)
    (n k : Nat) (s : Session σ) :
    takeAmid execute caller interim n k .closed s = ([], .closed, s) := by
  cases n <;> rfl

/-- A pull that gives an event comes first, and then what happens before the next one. -/
theorem takeAmid_of_pull {execute : Executor σ} {caller : Caller σ} {interim : Interim σ}
    {phase next : Phase} {s after : Session σ} {notice : Notice} (n k : Nat)
    (pulled : pull execute caller phase s = (some notice, next, after)) :
    takeAmid execute caller interim (n + 1) k phase s =
      (notice :: (takeAmid execute caller interim n (k + 1) next (interim k after)).1,
        (takeAmid execute caller interim n (k + 1) next (interim k after)).2) := by
  simp only [takeAmid, pulled]

/-- A step takes two pulls. -/
theorem pulls_cons (step : Step) (rest : List Step) :
    2 * (step :: rest).length + 1 = 2 * rest.length + 3 := by
  simp only [List.length_cons]
  omega

/-! The first of the remaining steps is canceled, halts or completes. -/

section
variable {execute : Executor σ} {caller : Caller σ} {interim : Interim σ} {step : Step}
  {rest : List Step} {p : Progress} {k : Nat} {s after : Session σ}

theorem takeAmid_of_canceled (stop : caller.canceled s.world = true) (n : Nat) :
    takeAmid execute caller interim (n + 1) k (.before (step :: rest) p) s =
      ([.ended ⟨.canceled, p.outputs⟩], .closed, interim k (s.note (.canceledBefore step.id))) := by
  have ended : pull execute caller (.before (step :: rest) p) s =
      (some (.ended ⟨.canceled, p.outputs⟩), .closed, s.note (.canceledBefore step.id)) := by
    simp [pull, startNext, stop]
  rw [takeAmid_of_pull _ _ ended, takeAmid_closed]

theorem takeAmid_of_halted {halt : Halt} (unset : caller.canceled s.world = false)
    (halted : execute p.outputs p.producers caller step (interim k s) = (.error halt, after))
    (n : Nat) :
    takeAmid execute caller interim (n + 3) k (.before (step :: rest) p) s =
      ((halt.course step p.outputs).notices, .closed,
        halt.afterwards interim (k + 1) after) := by
  have begun : pull execute caller (.before (step :: rest) p) s =
      (some (.status (.started step)), .started step rest p, s) := by
    simp [pull, startNext, unset]
  have ended : pull execute caller (.started step rest p) (interim k s) =
      (some (halt.notice step), halt.phase step p, after) := by
    simp [pull, halted]
  rw [takeAmid_of_pull _ _ begun, takeAmid_of_pull _ _ ended]
  cases halt with
  | failed message =>
    rw [Halt.phase, takeAmid_of_pull _ _ rfl, takeAmid_closed]
    rfl
  | raised cause =>
    rw [Halt.phase, takeAmid_closed]
    rfl

theorem takeAmid_of_completed {value : Value} (unset : caller.canceled s.world = false)
    (completed : execute p.outputs p.producers caller step (interim k s) = (.ok value, after))
    (n : Nat) :
    takeAmid execute caller interim (n + 2) k (.before (step :: rest) p) s =
      let later := takeAmid execute caller interim n (k + 2) (.before rest (p.store step value))
        (interim (k + 1) after)
      (.status (.started step) :: .status (.completed step) :: later.1, later.2) := by
  have begun : pull execute caller (.before (step :: rest) p) s =
      (some (.status (.started step)), .started step rest p, s) := by
    simp [pull, startNext, unset]
  have stored : pull execute caller (.started step rest p) (interim k s) =
      (some (.status (.completed step)), .before rest (p.store step value), after) := by
    simp [pull, completed]
  rw [takeAmid_of_pull _ _ begun, takeAmid_of_pull _ _ stored]

end

theorem takeAmid_idle (execute : Executor σ) (caller : Caller σ) (n k : Nat) (phase : Phase)
    (s : Session σ) :
    takeAmid execute caller .idle n k phase s = take execute caller n phase s := by
  induction n generalizing k phase s with
  | zero => rfl
  | succ n ih =>
    rcases pulled : pull execute caller phase s with ⟨notice?, next, after⟩
    cases notice? with
    | none => simp only [takeAmid, take, pulled]
    | some notice =>
      rw [takeAmid_of_pull n k pulled, take_of_pull n pulled]
      simp only [Interim.idle, ih]

theorem drainAmid_idle (execute : Executor σ) (caller : Caller σ) (phase : Phase) (s : Session σ) :
    drain execute caller phase s =
      ((drainAmid execute caller .idle phase s).1,
        (drainAmid execute caller .idle phase s).2.2) := by
  simp only [drain, drainAmid, takeAmid_idle]

/-- The notices of a run tell its course. -/
theorem notices_injective {c c' : Course} (same : c.notices = c'.notices) : c = c' := by
  unfold Course.notices at same
  obtain ⟨statuses, ended⟩ := List.append_inj' same rfl
  have first : c.statuses = c'.statuses :=
    List.map_injective_iff.2 (fun _ _ equal => Notice.status.inj equal) statuses
  have second : c.closing = c'.closing := by
    have last := List.singleton_injective ended
    cases closed : c.closing <;> cases closed' : c'.closing <;>
      simp_all [Notice.ofClosing]
  cases c
  cases c'
  simp_all

/-- What is pulled with nothing in between is the course of the run. -/
theorem course_of_drainAmid {execute : Executor σ} {caller : Caller σ} {reading : Reading}
    {s after : Session σ} {c : Course}
    (drained : drainAmid execute caller .idle (.submitted reading) s =
      (c.notices, .closed, after)) :
    Run.course execute reading caller s = (c, after) := by
  have whole := drain_submitted execute caller reading s
  rw [drainAmid_idle, drained] at whole
  simp only [Prod.mk.injEq] at whole
  exact Prod.ext (notices_injective whole.1.symm) whole.2.symm

end Phase

/-- The events of a run are its statuses and its result, or an exception. -/
theorem Event.mapM_ofNotice (c : Course) :
    c.notices.mapM Event.ofNotice =
      c.closing.map fun outcome =>
        c.statuses.map Event.status ++ [.result outcome.payload outcome.isCanceled] := by
  obtain ⟨statuses, closing⟩ := c
  induction statuses with
  | nil => cases closing <;> rfl
  | cons status rest ih =>
    simp only [Course.notices, List.map_cons, List.cons_append, List.mapM_cons] at ih ⊢
    rw [ih]
    cases closing <;> rfl

end Workflow
