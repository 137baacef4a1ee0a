import Workflow.Proofs.Host.Payload
import Workflow.Proofs.Text.Numeral

/-!
The number of steps that a host is told about. It is counted in the arguments of the call, and the
program is read from them apart from that. `Overlooks` says of which arguments the count misses the
steps that are run: of texts, of lists under `program`, and of objects under `program` without steps
beside which the steps stand.
-/
namespace Workflow

namespace Program

/-- The steps of some arguments are not where they are counted. -/
inductive Overlooks : Value → Prop
  | text (text : String) : Overlooks (.str text)
  | list {v : Value} {items : List Value} : v.field? "program" = some (.list items) →
    (∀ others, v.field? "steps" = some (.list others) → others.length ≠ items.length) → Overlooks v
  | object {v program : Value} : v.field? "program" = some program → program.isObject = true →
    (program.field? "steps" = none ∨ program.field? "steps" = some .null) → Overlooks v

/-- A program has as many steps as the list that it was read from, and at least one. -/
theorem length_of_ofValue {v : Value} {program : Program} (accepted : ofValue v = .ok program) :
    ∃ items, stepsEntry? v = some (.list items) ∧ program.steps.length = items.length ∧
      0 < items.length := by
  obtain ⟨first, rest, found, checked⟩ := ofValue_ok accepted
  exact ⟨first :: rest, found, stepsFrom_length (ofSteps_ok checked).1, Nat.succ_pos rest.length⟩

/-- How many steps an entry shows. -/
def shownCount : Option Value → Nat
  | some (.list steps) => steps.length
  | _ => 0

theorem shownCount_eq_iff {entry : Option Value} {n : Nat} (positive : 0 < n) :
    shownCount entry = n ↔ ∃ items, entry = some (.list items) ∧ items.length = n := by
  unfold shownCount
  split
  next steps => simp
  next other =>
    constructor
    · intro zero
      omega
    · rintro ⟨items, same, _⟩
      exact absurd same (other items)

section
variable {v program : Value} {items : List Value}

theorem announcedSteps_of_program (held : v.field? "program" = some program) :
    announcedSteps v =
      shownCount (if program.isObject then program.field? "steps" else v.field? "steps") := by
  unfold announcedSteps
  split
  · cases held
  · rw [held]
    dsimp only
    split <;> rfl

/-- Steps are read under `program`, or beside it where there are none. -/
theorem stepsEntry?_of_program (held : v.field? "program" = some program)
    (listless : ∀ inner, program ≠ .list inner) :
    stepsEntry? v =
      if program.field? "steps" = none ∨ program.field? "steps" = some .null then v.field? "steps"
      else program.field? "steps" := by
  unfold stepsEntry?
  split
  · cases held
  · rw [held]
    rcases shown : program.field? "steps" with _ | steps
    · cases program with
      | list inner => exact absurd rfl (listless inner)
      | _ => simp only [shown, true_or, if_true]
    · cases program with
      | list inner => exact absurd rfl (listless inner)
      | _ => cases steps <;> simp [shown]

/-- Steps in a list under `program` are counted if as many others stand under `steps`. -/
theorem announcedSteps_of_list (held : v.field? "program" = some (.list items))
    (present : 0 < items.length) : announcedSteps v = items.length ↔ ¬Overlooks v := by
  rw [announcedSteps_of_program held]
  have bare : (Value.list items).isObject = false := rfl
  rw [bare, if_neg Bool.false_ne_true, shownCount_eq_iff present]
  constructor
  · rintro ⟨others, found, same⟩ overlooks
    cases overlooks with
    | text => cases held
    | list held' differ =>
      rw [held] at held'
      cases held'
      exact differ others found same
    | object held' object =>
      rw [held] at held'
      cases held'
      cases object
  · intro kept
    by_contra none
    exact kept (.list held fun others found same => none ⟨others, found, same⟩)

theorem overlooks_of_program_iff (held : v.field? "program" = some program)
    (listless : ∀ inner, program ≠ .list inner) :
    Overlooks v ↔ program.isObject = true ∧
      (program.field? "steps" = none ∨ program.field? "steps" = some .null) := by
  constructor
  · intro overlooks
    cases overlooks with
    | text => cases held
    | list other =>
      rw [held] at other
      exact absurd (Option.some.inj other) (listless _)
    | object other object bare =>
      rw [held] at other
      cases other
      exact ⟨object, bare⟩
  · rintro ⟨object, bare⟩
    exact .object held object bare

/-- Steps beside an object under `program` are not counted, and all others are. -/
theorem announcedSteps_of_listless (held : v.field? "program" = some program)
    (listless : ∀ inner, program ≠ .list inner) (found : stepsEntry? v = some (.list items))
    (present : 0 < items.length) : announcedSteps v = items.length ↔ ¬Overlooks v := by
  rw [stepsEntry?_of_program held listless] at found
  rw [overlooks_of_program_iff held listless, announcedSteps_of_program held]
  split at found
  next bare =>
    by_cases object : program.isObject = true
    · have missed : shownCount (program.field? "steps") = 0 := by
        rcases bare with none | null
        · rw [none]
          rfl
        · rw [null]
          rfl
      rw [if_pos object, missed]
      simp only [object, bare, and_self, not_true, iff_false]
      omega
    · simp [object, found, shownCount]
  next =>
    obtain ⟨inner, entries, _⟩ := Value.exists_of_field found
    have object : program.isObject = true := by rw [Value.isObject, entries, Option.isSome_some]
    rw [if_pos object]
    simp [found, object, shownCount]

/-- Without a `program` the steps are counted where they are read. -/
theorem announcedSteps_of_bare (object : v.isObject = true) (bare : v.field? "program" = none)
    (found : stepsEntry? v = some (.list items)) :
    announcedSteps v = items.length ∧ ¬Overlooks v := by
  constructor
  · unfold announcedSteps
    unfold stepsEntry? at found
    split at found
    · cases object
    · simp only [bare] at found
      simp only [bare, found]
  · intro overlooks
    cases overlooks with
    | text => cases object
    | list held => simp [bare] at held
    | object held => simp [bare] at held

theorem announcedSteps_of_object (object : v.isObject = true)
    (found : stepsEntry? v = some (.list items)) (present : 0 < items.length) :
    announcedSteps v = items.length ↔ ¬Overlooks v := by
  cases held : v.field? "program" with
  | none =>
    obtain ⟨counted, kept⟩ := announcedSteps_of_bare object held found
    exact iff_of_true counted kept
  | some program =>
    by_cases listed : ∃ inner, program = .list inner
    · obtain ⟨inner, rfl⟩ := listed
      unfold stepsEntry? at found
      split at found
      · cases object
      · simp only [held, Option.some.injEq, Value.list.injEq] at found
        subst found
        exact announcedSteps_of_list held present
    · have listless : ∀ inner, program ≠ .list inner := fun inner same => listed ⟨inner, same⟩
      exact announcedSteps_of_listless held listless found present

end

/-- The announced number is that of the steps of the program, unless these are overlooked. -/
theorem announcedSteps_eq_iff {raw : Value} {program : Program}
    (accepted : read raw = .ok program) :
    announcedSteps raw = program.steps.length ↔ ¬Overlooks raw := by
  cases raw with
  | str text =>
    have positive : 0 < program.steps.length :=
      List.length_pos_iff.2 (read_wellFormed accepted).nonempty
    have missed : announcedSteps (.str text) = 0 := rfl
    refine ⟨fun counted => ?_, fun kept => absurd (.text text) kept⟩
    omega
  | dict _ | keyed _ _ =>
    obtain ⟨items, found, counted, present⟩ := length_of_ofValue accepted
    rw [counted]
    exact announcedSteps_of_object rfl found present
  | list items =>
    obtain ⟨others, found, counted, _⟩ := length_of_ofValue accepted
    cases found
    refine ⟨fun _ overlooks => ?_, fun _ => counted.symm⟩
    cases overlooks with
    | list other => cases other
    | object other => cases other
  | _ => cases accepted

end Program

namespace Host

variable {σ : Type}

theorem runningLine?_runName (engine : Engine σ) (args : Value) :
    runningLine? engine (Engine.runName engine.settings) args =
      some s!"Executing workflow with {Program.announcedSteps args} steps…" := by
  simp only [runningLine?, Request.runName_ne_describeName, if_false, if_true]

theorem completedLine?_runName (engine : Engine σ) (args : Value) {result : Value}
    (clean : ¬Envelope.HasError result) :
    completedLine? engine (Engine.runName engine.settings) args result =
      .ok (some s!"Completed workflow with {Program.announcedSteps args} steps") := by
  have none : (result.field? "error").filter Value.truthy = none := by
    rw [Option.filter_eq_none_iff]
    intro error found present
    exact clean ⟨error, found, present⟩
  have looked := errorOf?_of_tested fun error found present =>
    absurd ⟨error, found, present⟩ clean
  simp only [completedLine?, Request.runName_ne_describeName, if_false, if_true, looked, none, bind,
    Except.bind]

/-- A line states one number. -/
theorem counted_inj {front back : String} {m n : Nat} :
    front ++ toString m ++ back = front ++ toString n ++ back ↔ m = n := by
  rw [String.append_left_inj, String.append_right_inj]
  refine ⟨fun same => ?_, congrArg toString⟩
  have digits : Nat.toDigits 10 m = Nat.toDigits 10 n := by
    have chars := congrArg String.toList same
    rwa [Nat.toString_eq_repr, Nat.toString_eq_repr, Nat.toList_repr, Nat.toList_repr] at chars
  rw [← Text.numeralValue_toDigits m, digits, Text.numeralValue_toDigits]

/-- The lines about the run of an accepted program state how many steps it has, and so does the
number in them, exactly if the arguments are not of the kind whose steps are overlooked. -/
theorem states_step_count_iff (engine : Engine σ) (raw : Value) (program : Program)
    (accepted : Program.read raw = .ok program) :
    (Program.announcedSteps raw = program.steps.length ↔ ¬Program.Overlooks raw) ∧
      (runningLine? engine (Engine.runName engine.settings) raw =
        some s!"Executing workflow with {program.steps.length} steps…" ↔
          ¬Program.Overlooks raw) ∧
      ∀ result, ¬Envelope.HasError result →
        (completedLine? engine (Engine.runName engine.settings) raw result =
          .ok (some s!"Completed workflow with {program.steps.length} steps") ↔
            ¬Program.Overlooks raw) := by
  have counted := Program.announcedSteps_eq_iff accepted
  refine ⟨counted, ?_, fun result clean => ?_⟩
  · rw [runningLine?_runName, Option.some.injEq, ← counted]
    exact counted_inj
  · rw [completedLine?_runName engine raw clean, Except.ok.injEq, Option.some.injEq, ← counted]
    exact counted_inj

/-- A step that is enclosed in an object under `program` is counted. -/
theorem states_step_count_enclosed :
    let engine := Engine.raising .nameless
    let raw : Value := .dict [("program", .dict [("steps", Program.oneStep)])]
    ∃ program, Program.read raw = .ok program ∧ ¬Program.Overlooks raw ∧
      Program.announcedSteps raw = program.steps.length ∧
      runningLine? engine (Engine.runName engine.settings) raw =
        some "Executing workflow with 1 steps…" ∧
      completedLine? engine (Engine.runName engine.settings) raw (.int 7) =
        .ok (some "Completed workflow with 1 steps") := by
  intro engine raw
  have kept : ¬Program.Overlooks raw := by
    have held : raw.field? "program" = some (.dict [("steps", Program.oneStep)]) := rfl
    rw [Program.overlooks_of_program_iff held (by simp)]
    rintro ⟨_, none | null⟩
    · cases none
    · cases null
  have clean : ¬Envelope.HasError (.int 7) := by
    rintro ⟨_, found, _⟩
    cases found
  obtain ⟨counted, running, completed⟩ := states_step_count_iff engine raw
    ⟨[⟨"a", "t", [], none, none⟩]⟩ rfl
  exact ⟨_, rfl, kept, counted.2 kept, running.2 kept, (completed (.int 7) clean).2 kept⟩

/-- A list under `program`, steps beside an object under `program`, and a text are all run as a
program of one step, and announced as none. -/
theorem step_announced_as_none :
    let engine := Engine.raising .nameless
    let listed : Value := .dict [("program", Program.oneStep)]
    let beside : Value := .dict [("program", .dict []), ("steps", Program.oneStep)]
    let text : Value := .str "[\x7b\"id\": \"a\", \"tool\": \"t\"\x7d]"
    ∀ raw ∈ [listed, beside, text],
      (Program.read raw).map (·.steps.length) = .ok 1 ∧ Program.announcedSteps raw = 0 ∧
        runningLine? engine (Engine.runName engine.settings) raw =
          some "Executing workflow with 0 steps…" ∧
        completedLine? engine (Engine.runName engine.settings) raw (.int 7) =
          .ok (some "Completed workflow with 0 steps") := by
  intro engine listed beside text raw member
  simp only [List.mem_cons, List.not_mem_nil, or_false] at member
  rcases member with rfl | rfl | rfl
  · decide +kernel
  · decide +kernel
  · decide +kernel

end Host
end Workflow
