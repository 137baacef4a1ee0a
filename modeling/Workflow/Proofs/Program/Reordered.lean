import Mathlib.Data.List.Forall2
import Mathlib.Data.List.Perm.Basic
import Workflow.Proofs.Program.Accepted

/-!
Programs in another order. What a step is read as does not depend on its position, so the steps of
an accepted program are an accepted program in every order.
-/
namespace Workflow

namespace Fields

variable {α : Type} {location : List String} {fields : List (String × Value)} {name : String}
  {read : Value → Except Fault α} {found : α}

/-- Where a record stands shows in its problems only. -/
theorem required_relocated (other : List String)
    (success : required location fields name read = .ok found) :
    required other fields name read = .ok found :=
  required_ok_iff.2 (required_ok_iff.1 success)

theorem optional_relocated {default : α} (other : List String)
    (success : optional location fields name default read = .ok found) :
    optional other fields name default read = .ok found :=
  optional_ok_iff.2 (optional_ok_iff.1 success)

end Fields

theorem Step.ofValue_relocated {location : List String} (other : List String) {v : Value}
    {step : Step} (success : ofValue location v = .ok step) : ofValue other v = .ok step := by
  unfold ofValue at success ⊢
  cases shown : v.shownEntries? with
  | none => simp [shown] at success
  | some fields =>
    simp only [shown, ofFields] at success ⊢
    split at success
    next id tool args description expert =>
      cases success
      rw [Fields.required_relocated other id, Fields.required_relocated other tool,
        Fields.optional_relocated other args, Fields.optional_relocated other description,
        Fields.optional_relocated other expert]
    · cases success

namespace Program

/-- Steps are read item by item, wherever the items stand. -/
theorem stepsFrom_ok_iff (position : Nat) (items : List Value) (steps : List Step) :
    stepsFrom position items = .ok steps ↔
      List.Forall₂ (fun item step => Step.ofValue [] item = .ok step) items steps := by
  induction items generalizing position steps with
  | nil =>
    simp only [stepsFrom, Except.ok.injEq, List.forall₂_nil_left_iff]
    exact eq_comm
  | cons item rest ih =>
    rw [List.forall₂_cons_left_iff, stepsFrom]
    constructor
    · intro read
      split at read
      next step others first later =>
        cases read
        exact ⟨step, others, Step.ofValue_relocated [] first, (ih ..).1 later, rfl⟩
      · cases read
    · rintro ⟨step, others, first, later, rfl⟩
      rw [Step.ofValue_relocated _ first, (ih (position + 1) others).2 later]

/-- The steps of an accepted program are an accepted program in every order. -/
theorem exists_read_of_perm {raw : Value} {program : Program} {steps : List Step}
    (accepted : read raw = .ok program) (reordered : steps.Perm program.steps) :
    ∃ raw', read raw' = .ok ⟨steps⟩ := by
  obtain ⟨nonempty, distinct⟩ := read_wellFormed accepted
  obtain ⟨v, accepted⟩ := read_ok accepted
  obtain ⟨first, others, _, checked⟩ := ofValue_ok accepted
  obtain ⟨items, same, _⟩ :=
    List.perm_comp_forall₂ reordered ((stepsFrom_ok_iff ..).1 (ofSteps_ok checked).1).flip
  have read : stepsFrom 0 items = .ok steps := (stepsFrom_ok_iff ..).2 same.flip
  have unique : duplicateId? [] steps = none :=
    (duplicateId?_eq_none_iff [] steps).2 ⟨(reordered.map Step.id).nodup_iff.2 distinct, by simp⟩
  cases items with
  | nil =>
    cases same
    exact absurd reordered.nil_eq.symm nonempty
  | cons item rest =>
    refine ⟨.list (item :: rest), ?_⟩
    have program : ofSteps (item :: rest) = .ok ⟨steps⟩ := by
      simp only [ofSteps, read, bind, Except.bind, unique]
      rfl
    simp only [Program.read, ofValue, stepsEntry?, program, Success.mapError_ok]

end Program
end Workflow
