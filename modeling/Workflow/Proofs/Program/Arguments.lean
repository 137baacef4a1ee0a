import Workflow.Proofs.Json.Shaped
import Workflow.Proofs.Program.Accepted

/-!
The arguments of accepted steps. A step keeps its arguments as they were submitted, so those of a
program that came as JSON can be written as JSON again.
-/
namespace Workflow

namespace Step

variable {kind : Int → Bool}

/-- The arguments of a step are those of its fields, as they are where all keys are texts, or
none. -/
theorem ofFields_args {location : List String} {fields : List (String × Value)} {step : Step}
    (success : ofFields location fields = .ok step) :
    step.args = [] ∨ fields.lookup "args" = some (.dict step.args) ∨
      ∃ keys values, fields.lookup "args" = some (.keyed keys values) := by
  simp only [ofFields] at success
  split at success
  next id' tool' args' description' expert' _ _ held _ _ =>
    cases success
    rcases Fields.optional_ok_iff.1 held with ⟨_, absent⟩ | ⟨value, found, listed⟩
    · exact .inl absent
    · refine .inr ?_
      cases value with
      | dict entries =>
        cases listed
        exact .inl found
      | keyed keys values => exact .inr ⟨keys, values, found⟩
      | _ => cases listed
  · cases success

theorem isJson_args {location : List String} {v : Value} {step : Step}
    (shaped : v.isJsonOf kind = true) (success : ofValue location v = .ok step) :
    (Value.dict step.args).isJsonOf kind = true := by
  cases v with
  | dict fields =>
    have read : ofFields location fields = .ok step := success
    rcases ofFields_args read with none | found | ⟨keys, values, found⟩
    · rw [none]
      rfl
    · exact Value.isJson_of_field shaped found
    · cases Value.isJson_of_field shaped found
  | keyed keys values => cases shaped
  | unreadable message => cases shaped
  | _ => cases success

end Step

namespace Program

variable {kind : Int → Bool}

/-- Every step has arguments that JSON can stand for, with integers of some kind. -/
def TakesJson (kind : Int → Bool) (steps : List Step) : Prop :=
  ∀ step ∈ steps, (Value.dict step.args).isJsonOf kind = true

theorem takesJson_of_stepsFrom {position : Nat} {items : List Value} {steps : List Step}
    (shaped : Value.isJsonItemsOf kind items = true) (read : stepsFrom position items = .ok steps) :
    TakesJson kind steps := by
  induction items generalizing position steps with
  | nil =>
    cases read
    intro step member
    cases member
  | cons item rest ih =>
    simp only [Value.isJsonItemsOf, Bool.and_eq_true] at shaped
    simp only [stepsFrom] at read
    split at read
    next first others head tail =>
      cases read
      intro step member
      rcases List.mem_cons.1 member with rfl | later
      · exact Step.isJson_args shaped.1 head
      · exact ih shaped.2 tail step later
    · cases read

theorem takesJson_of_ofValue {v : Value} {program : Program} (shaped : v.isJsonOf kind = true)
    (accepted : ofValue v = .ok program) : TakesJson kind program.steps := by
  obtain ⟨first, rest, found, checked⟩ := ofValue_ok accepted
  exact takesJson_of_stepsFrom (isJson_of_stepsEntry shaped found) (ofSteps_ok checked).1

/-- A program that came as JSON, or as a text inside it, has arguments of JSON only. -/
theorem takesJson_of_read (takes : Json.TakesShort kind) {raw : Value} {program : Program}
    (shaped : raw.isJsonOf kind = true) (accepted : read raw = .ok program) :
    TakesJson kind program.steps := by
  unfold read at accepted
  split at accepted
  · split at accepted
    next v parsed => exact takesJson_of_ofValue (Json.isJson_of_parse takes parsed) accepted
    · cases accepted
    · cases accepted
  · exact takesJson_of_ofValue shaped accepted

end Program
end Workflow
