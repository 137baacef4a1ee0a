import Workflow.Proofs.Program.Arguments
import Workflow.Proofs.Program.Reordered
import Workflow.Proofs.Template.Literal

/-!
Programs within the arguments of a step. The steps of a program that is read from an object have
arguments whose values stand inside an entry of this object. So they are lower than it, and without
placeholders if it is.
-/
namespace Workflow

namespace Fields

/-- The values of entries that are read from an object stand inside it. -/
theorem inside_of_entries {read : Key → Except Fault String} {v : Value}
    {found : List (String × Value)} (listed : entries read v = .ok found) {key : String}
    {value : Value} (member : (key, value) ∈ found) : value.Inside v := by
  cases v with
  | dict _ =>
    cases listed
    exact .of_entry member
  | keyed keys values =>
    obtain ⟨texts, _, rfl⟩ := Success.map_ok listed
    exact .of_keyed (List.of_mem_zip (Entries.mem_of_ofPairs member)).2
  | _ => cases listed

end Fields

/-- What the arguments of a step are stands inside the value that the step was read from. -/
theorem Step.inside_of_args {location : List String} {v : Value} {step : Step}
    (success : ofValue location v = .ok step) {key : String} {value : Value}
    (member : (key, value) ∈ step.args) : value.Inside v := by
  unfold ofValue at success
  split at success
  next fields shown =>
    obtain ⟨args, found, inside⟩ :
        ∃ args, fields.lookup "args" = some args ∧ value.Inside args := by
      simp only [ofFields] at success
      split at success
      next _ _ _ _ _ _ _ held _ _ =>
        cases success
        rcases Fields.optional_ok_iff.1 held with ⟨_, absent⟩ | ⟨args, found, listed⟩
        · rw [absent] at member
          cases member
        · exact ⟨args, found, Fields.inside_of_entries listed member⟩
      · cases success
    exact inside.trans (.of_shown shown (Entries.mem_of_lookup found))
  · cases success

namespace Program

theorem inside_of_stepsFrom {position : Nat} {items : List Value} {steps : List Step}
    (read : stepsFrom position items = .ok steps) {step : Step} (held : step ∈ steps)
    {key : String} {value : Value} (member : (key, value) ∈ step.args) :
    value.Inside (.list items) := by
  have same := (stepsFrom_ok_iff position items steps).1 read
  obtain ⟨item, place, first⟩ : ∃ item ∈ items, Step.ofValue [] item = .ok step := by
    clear read
    induction same with
    | nil => cases held
    | @cons item step' items steps first _ ih =>
      rcases List.mem_cons.1 held with rfl | later
      · exact ⟨item, by simp, first⟩
      · obtain ⟨other, place, first⟩ := ih later
        exact ⟨other, List.mem_cons_of_mem item place, first⟩
  exact (Step.inside_of_args first member).trans (.of_item place)

/-- The steps that an object announces stand within one of its entries. -/
theorem within_of_stepsEntry {entries : List (String × Value)} {steps : Value}
    (found : stepsEntry? (.dict entries) = some steps) :
    ∃ key value, (key, value) ∈ entries ∧ steps.Within value := by
  have direct {key : String} {value : Value}
      (field : (Value.dict entries).field? key = some value) : (key, value) ∈ entries :=
    Entries.mem_of_lookup field
  unfold stepsEntry? at found
  dsimp only at found
  split at found
  · exact ⟨"steps", steps, direct found, .here⟩
  · exact ⟨"steps", steps, direct found, .here⟩
  next steps' _ held =>
    cases found
    split at held
    next listed program =>
      cases held
      exact ⟨"program", _, direct program, .here⟩
    next program outer =>
      exact ⟨"program", _, direct outer, (Value.Inside.of_field held).1⟩
    · cases held

/-- Steps that are read from an object are read from a list within one of its entries. -/
theorem inside_of_read {entries : List (String × Value)} {program : Program}
    (accepted : read (.dict entries) = .ok program) :
    ∃ key value, (key, value) ∈ entries ∧ 0 < value.height ∧
      ∀ step ∈ program.steps, ∀ entry ∈ step.args, entry.2.Inside value := by
  obtain ⟨first, rest, found, checked⟩ := ofValue_ok accepted
  obtain ⟨key, value, entry, listed⟩ := within_of_stepsEntry found
  have steps := (ofSteps_ok checked).1
  refine ⟨key, value, entry, ?_, fun step held arg member => ?_⟩
  · have positive : 0 < (Value.list (first :: rest)).height := Nat.succ_pos _
    exact positive.trans_le listed.height_le
  · obtain ⟨within, lower⟩ := inside_of_stepsFrom steps held member
    exact ⟨within.trans listed, lower.trans_le listed.height_le⟩

end Program

/-! ### Inner steps -/

namespace Step

/-- The steps of the program that the arguments of a step are, with lists for fixed sequences. There
are none if they are refused. -/
def inner (step : Step) : List Step :=
  match Program.read (Value.dict step.args).listed with
  | .ok program => program.steps
  | .error _ => []

variable {step inner : Step}

theorem inner_of_read {program : Program}
    (accepted : Program.read (Value.dict step.args).listed = .ok program) :
    step.inner = program.steps := by
  simp only [Step.inner, accepted]

theorem inside_of_mem_inner (member : inner ∈ step.inner) :
    ∃ key value, (key, value) ∈ Value.listedEntries step.args ∧ 0 < value.height ∧
      ∀ entry ∈ inner.args, entry.2.Inside value := by
  unfold Step.inner at member
  split at member
  next program accepted =>
    obtain ⟨key, value, entry, positive, inside⟩ := Program.inside_of_read accepted
    exact ⟨key, value, entry, positive, inside inner member⟩
  · cases member

/-- Inner steps have lower arguments. -/
theorem height_of_mem_inner (member : inner ∈ step.inner) :
    (Value.dict inner.args).height < (Value.dict step.args).height := by
  obtain ⟨key, value, entry, positive, inside⟩ := inside_of_mem_inner member
  have lower := Value.heightOfEntries_lt positive fun arg held => (inside arg held).2
  have part := Value.height_le_of_entry entry
  rw [Value.heightOfEntries_listed] at part
  simp only [Value.height]
  omega

/-- Inner steps have no placeholders if the arguments that hold them have none. -/
theorem literal_of_mem_inner (literal : Template.Literal (.dict step.args))
    (member : inner ∈ step.inner) : Template.Literal (.dict inner.args) := by
  obtain ⟨key, value, entry, _, inside⟩ := inside_of_mem_inner member
  have listed : Template.Literal (.dict (Value.listedEntries step.args)) := literal.listed
  refine listed.of_holds fun text held => ?_
  cases held with
  | entry member held =>
    exact ((inside _ member).1.trans (.entry entry .here)).holds held

end Step
end Workflow
