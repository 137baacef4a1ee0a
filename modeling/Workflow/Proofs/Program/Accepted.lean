import Workflow.Proofs.Json.Shaped
import Workflow.Program

/-!
What acceptance of a program gives. The steps of an accepted program are not empty and their ids are
distinct, so later steps never replace an output. A host's value is refused for its shape or its
fields; the only other way not to be read is a number of too many digits, in a text or where a text
is due.
-/
namespace Workflow

namespace Fields

variable {α : Type} {location : List String} {fields : List (String × Value)} {name : String}
  {read : Value → Except Fault α} {found : α}

/-- A field that has to be there is read where it is. -/
theorem required_ok_iff :
    required location fields name read = .ok found ↔
      ∃ v, fields.lookup name = some v ∧ read v = .ok found := by
  unfold required
  cases fields.lookup name with
  | none => simp
  | some v => simp [Success.mapError_ok_iff]

/-- Where an optional field is absent, its default is found. -/
theorem optional_ok_iff {default : α} :
    optional location fields name default read = .ok found ↔
      fields.lookup name = none ∧ found = default ∨
        ∃ v, fields.lookup name = some v ∧ read v = .ok found := by
  unfold optional
  cases fields.lookup name with
  | none => simp [eq_comm]
  | some v => simp [Success.mapError_ok_iff]

/-! ### Numbers of too many digits -/

/-- Reading came across a number that has no text. -/
def Checked.Overlong (checked : Checked α) : Prop := ∃ p ∈ checked.problems, p.fault = .overlong

theorem not_overlong_ok (a : α) : ¬Checked.Overlong (.ok a) := by
  simp [Checked.Overlong, Checked.problems]

/-- Of two checks whose problems are collected, one came across such a number. -/
theorem overlong_append_iff {β γ : Type} {first : Checked α} {second : Checked β} :
    Checked.Overlong (.error (first.problems ++ second.problems) : Checked γ) ↔
      first.Overlong ∨ second.Overlong := by
  change (∃ p ∈ first.problems ++ second.problems, p.fault = .overlong) ↔ _
  simp only [Checked.Overlong, List.mem_append, or_and_right, exists_or]

theorem overlong_required_iff :
    (required location fields name read).Overlong ↔
      ∃ v, fields.lookup name = some v ∧ read v = .error .overlong := by
  unfold required
  cases fields.lookup name with
  | none => simp [Checked.Overlong, Checked.problems]
  | some v => cases found : read v <;> simp [Checked.Overlong, Checked.problems, found]

theorem overlong_optional_iff {default : α} :
    (optional location fields name default read).Overlong ↔
      ∃ v, fields.lookup name = some v ∧ read v = .error .overlong := by
  unfold optional
  cases fields.lookup name with
  | none => simp [Checked.Overlong, Checked.problems]
  | some v => cases found : read v <;> simp [Checked.Overlong, Checked.problems, found]

theorem decimal_overlong_iff {n : Int} :
    decimal n = .error .overlong ↔ Text.isOverlong n = true := by
  unfold decimal
  split <;> simp_all

theorem label_overlong_iff {v : Value} :
    label v = .error .overlong ↔ ∃ n, v = .int n ∧ Text.isOverlong n = true := by
  cases v <;> simp [label, decimal_overlong_iff]

theorem nonempty_overlong_iff {read : Value → Except Fault String} {v : Value} :
    nonempty read v = .error .overlong ↔ read v = .error .overlong := by
  unfold nonempty
  cases read v with
  | error fault => simp [bind, Except.bind]
  | ok s =>
    simp only [bind, Except.bind, pure, Except.pure]
    split
    · simp
    · split <;> simp

theorem nullable_label_overlong_iff {v : Value} :
    nullable label v = .error .overlong ↔ label v = .error .overlong := by
  unfold nullable
  split
  · simp [label]
  · cases label v <;> simp

theorem labelKey_overlong_iff {key : Key} :
    labelKey key = .error .overlong ↔ ∃ n, key = .int n ∧ Text.isOverlong n = true := by
  cases key <;> simp [labelKey, decimal_overlong_iff]

theorem keyTexts_overlong_iff {keys : List Key} :
    keyTexts labelKey keys = .error .overlong ↔
      ∃ n, .int n ∈ keys ∧ Text.isOverlong n = true := by
  unfold keyTexts
  dsimp only
  split
  next long =>
    obtain ⟨key, member, refused⟩ := List.any_eq_true.1 long
    obtain ⟨n, rfl, long⟩ := labelKey_overlong_iff.1 (by
      split at refused
      next same => exact same
      · cases refused)
    exact iff_of_true rfl ⟨n, member, long⟩
  next short =>
    refine iff_of_false (by split <;> simp) ?_
    rintro ⟨n, member, long⟩
    refine short (List.any_eq_true.2 ⟨_, member, ?_⟩)
    rw [labelKey_overlong_iff.2 ⟨n, rfl, long⟩]

theorem entries_overlong_iff {v : Value} :
    entries labelKey v = .error .overlong ↔
      ∃ keys values n, v = .keyed keys values ∧ .int n ∈ keys ∧ Text.isOverlong n = true := by
  cases v with
  | keyed keys values =>
    have texts : entries labelKey (.keyed keys values) = .error .overlong ↔
        keyTexts labelKey keys = .error .overlong := by
      cases read : keyTexts labelKey keys <;> simp [entries, read]
    simp [texts, keyTexts_overlong_iff]
  | _ => simp [entries]

end Fields

namespace Step
open Fields

/-- A number of too many digits stands in a step where a text is due: as a field, or as a key of the
arguments. -/
def Overlong (item : Value) : Prop :=
  ∃ fields, item.shownEntries? = some fields ∧ ∃ n, Text.isOverlong n = true ∧
    ((∃ name ∈ ["id", "tool", "description", "expert"], fields.lookup name = some (.int n)) ∨
      ∃ keys values, fields.lookup "args" = some (.keyed keys values) ∧ .int n ∈ keys)

theorem overlong_ofFields_iff {location : List String} {fields : List (String × Value)} :
    (ofFields location fields).Overlong ↔
      (required location fields "id" (nonempty label)).Overlong ∨
      (required location fields "tool" (nonempty label)).Overlong ∨
      (optional location fields "args" [] (entries labelKey)).Overlong ∨
      (optional location fields "description" none (nullable label)).Overlong ∨
      (optional location fields "expert" none (nullable label)).Overlong := by
  simp only [ofFields]
  split
  next id tool args description expert id' tool' args' description' expert' =>
    simp [Checked.Overlong, Checked.problems, id', tool', args', description', expert']
  · simp only [Checked.Overlong, Checked.problems, List.mem_append, or_and_right, exists_or,
      or_assoc]

theorem overlong_ofValue_iff {location : List String} {item : Value} :
    (ofValue location item).Overlong ↔ Overlong item := by
  unfold ofValue Overlong
  cases item.shownEntries? with
  | none => simp [Checked.Overlong, Checked.problems]
  | some fields =>
    simp only [overlong_ofFields_iff, overlong_required_iff, overlong_optional_iff,
      nonempty_overlong_iff, nullable_label_overlong_iff, label_overlong_iff, entries_overlong_iff,
      Option.some.injEq, exists_eq_left', List.mem_cons, List.not_mem_nil, or_false]
    grind

end Step

namespace Program

/-- What every accepted program is. -/
structure WellFormed (program : Program) : Prop where
  nonempty : program.steps ≠ []
  distinct : (program.steps.map Step.id).Nodup

theorem duplicateId?_eq_none_iff (seen : List String) (steps : List Step) :
    duplicateId? seen steps = none ↔
      (steps.map Step.id).Nodup ∧ ∀ id ∈ steps.map Step.id, id ∉ seen := by
  induction steps generalizing seen with
  | nil => simp [duplicateId?]
  | cons step rest ih =>
    by_cases known : step.id ∈ seen
    · simp [duplicateId?, known]
    · simp only [duplicateId?, known, if_false, ih, List.map_cons, List.nodup_cons, List.mem_cons]
      grind

theorem stepsFrom_length {position : Nat} {items : List Value} {steps : List Step}
    (read : stepsFrom position items = .ok steps) : steps.length = items.length := by
  induction items generalizing position steps with
  | nil =>
    cases read
    rfl
  | cons item rest ih =>
    simp only [stepsFrom] at read
    split at read
    next first others _ later =>
      cases read
      rw [List.length_cons, List.length_cons, ih later]
    · cases read

/-- Accepted steps are those that were read one by one, and no id stands twice. -/
theorem ofSteps_ok {items : List Value} {program : Program}
    (accepted : ofSteps items = .ok program) :
    stepsFrom 0 items = .ok program.steps ∧ duplicateId? [] program.steps = none := by
  obtain ⟨steps, read, accepted⟩ := Success.bind_ok accepted
  cases duplicate : duplicateId? [] steps with
  | some id => simp [duplicate] at accepted
  | none =>
    simp only [duplicate, pure, Except.pure, Except.ok.injEq] at accepted
    subst accepted
    exact ⟨read, duplicate⟩

theorem ofSteps_wellFormed {first : Value} {rest : List Value} {program : Program}
    (accepted : ofSteps (first :: rest) = .ok program) : program.WellFormed := by
  obtain ⟨read, unique⟩ := ofSteps_ok accepted
  have counted := stepsFrom_length read
  refine ⟨?_, ((duplicateId?_eq_none_iff _ _).1 unique).1⟩
  intro empty
  simp [empty] at counted

theorem ofValue_ok {v : Value} {program : Program} (accepted : ofValue v = .ok program) :
    ∃ first rest, stepsEntry? v = some (.list (first :: rest)) ∧
      ofSteps (first :: rest) = .ok program := by
  unfold ofValue at accepted
  split at accepted
  next first rest found => exact ⟨first, rest, found, Success.mapError_ok_iff.1 accepted⟩
  · cases accepted

/-- A step holds a number of too many digits where a text is due. -/
def Overlong (v : Value) : Prop :=
  ∃ first rest, stepsEntry? v = some (.list (first :: rest)) ∧
    ∃ item ∈ first :: rest, Step.Overlong item

theorem overlong_stepsFrom_iff (position : Nat) {items : List Value} :
    (stepsFrom position items).Overlong ↔ ∃ item ∈ items, Step.Overlong item := by
  induction items generalizing position with
  | nil => simp [stepsFrom, Fields.not_overlong_ok]
  | cons item rest ih =>
    have parts : (stepsFrom position (item :: rest)).Overlong ↔
        (Step.ofValue ["steps", toString position] item).Overlong ∨
          (stepsFrom (position + 1) rest).Overlong := by
      rw [stepsFrom]
      split
      next first others head tail =>
        rw [head, tail]
        exact iff_of_false (Fields.not_overlong_ok _)
          (not_or.2 ⟨Fields.not_overlong_ok _, Fields.not_overlong_ok _⟩)
      · exact Fields.overlong_append_iff
    rw [parts, Step.overlong_ofValue_iff, ih, List.exists_mem_cons_iff]

theorem overlong_ofSteps_iff {items : List Value} :
    (ofSteps items).Overlong ↔ ∃ item ∈ items, Step.Overlong item := by
  rw [← overlong_stepsFrom_iff 0]
  unfold ofSteps
  cases read : stepsFrom 0 items with
  | error problems => rfl
  | ok steps =>
    cases duplicate : duplicateId? [] steps <;>
      simp [duplicate, Fields.Checked.Overlong, Fields.Checked.problems, bind, Except.bind, pure,
        Except.pure]

/-- Reading a value raises exactly where it holds such a number. -/
theorem ofValue_raised_iff {v : Value} {cause : Raised} :
    ofValue v = .error (.raised cause) ↔ Overlong v ∧ cause = .overlong := by
  unfold ofValue
  split
  next first rest found =>
    have numbered : Overlong v ↔ (ofSteps (first :: rest)).Overlong := by
      rw [overlong_ofSteps_iff]
      constructor
      · rintro ⟨head, tail, found', held⟩
        rw [found] at found'
        cases found'
        exact held
      · exact fun held => ⟨first, rest, found, held⟩
    rw [numbered]
    cases ofSteps (first :: rest) with
    | ok program => simp [Fields.not_overlong_ok]
    | error problems =>
      have long : (problems.any (·.fault = .overlong)) = true ↔
          Fields.Checked.Overlong (.error problems : Fields.Checked Program) := by
        simp [Fields.Checked.Overlong, Fields.Checked.problems]
      rw [Success.mapError_error, ReadError.ofProblems, ← long]
      split
      next held =>
        constructor
        · rintro ⟨⟩
          exact ⟨held, rfl⟩
        · rintro ⟨_, rfl⟩
          rfl
      next free => exact iff_of_false nofun fun held => free held.1
  next other =>
    refine iff_of_false nofun ?_
    rintro ⟨⟨first, rest, found, _⟩, _⟩
    exact other first rest found

/-- A program that is read comes from a value, which is the raw one or what its text stands for. -/
theorem read_ok {raw : Value} {program : Program} (accepted : read raw = .ok program) :
    ∃ v, ofValue v = .ok program := by
  unfold read at accepted
  split at accepted
  · split at accepted
    · exact ⟨_, accepted⟩
    · cases accepted
    · cases accepted
  · exact ⟨_, accepted⟩

theorem read_wellFormed {raw : Value} {program : Program} (accepted : read raw = .ok program) :
    program.WellFormed := by
  obtain ⟨v, accepted⟩ := read_ok accepted
  obtain ⟨first, rest, _, checked⟩ := ofValue_ok accepted
  exact ofSteps_wellFormed checked

theorem isJson_of_stepsEntry {kind : Int → Bool} {v steps : Value} (shaped : v.isJsonOf kind = true)
    (found : stepsEntry? v = some steps) : steps.isJsonOf kind = true := by
  unfold stepsEntry? at found
  simp only at found
  split at found
  · cases found
    exact shaped
  · split at found
    · exact Value.isJson_of_field shaped found
    · exact Value.isJson_of_field shaped found
    next steps' _ held =>
      cases found
      split at held
      next listed program =>
        cases held
        exact Value.isJson_of_field shaped program
      next program outer =>
        exact Value.isJson_of_field (Value.isJson_of_field shaped outer) held
      · cases held

/-- Where all numbers can be written, none of too many digits stands where a text is due. -/
theorem not_overlong_of_isWritable {v : Value} (shaped : v.isWritable = true) : ¬Overlong v := by
  rintro ⟨first, rest, found, item, member, fields, shown, n, long, held⟩
  have listed : Value.isJsonItemsOf _ (first :: rest) = true := isJson_of_stepsEntry shaped found
  have entry {name : String} {value : Value} (found : fields.lookup name = some value) :
      value.isWritable = true :=
    Value.isJson_of_field ((Value.isJsonItems_iff _).1 listed item member)
      (Option.bind_eq_some_iff.2 ⟨fields, shown, found⟩)
  rcases held with ⟨name, _, found⟩ | ⟨keys, values, found, _⟩
  · have short := entry found
    simp [Value.isWritable, Value.isJsonOf, long] at short
  · cases entry found

/-- Reading raises for a text with an integer of too many digits, for a value that has one where a
text is due, and for nothing else. -/
theorem read_raised_iff (raw : Value) (cause : Raised) :
    read raw = .error (.raised cause) ↔
      (∃ text digits, raw = .str text ∧ Json.parse text = .error (.numeral digits) ∧
        cause = ⟨"ValueError", Text.tooManyDigits digits⟩) ∨
      Overlong raw ∧ cause = .overlong := by
  cases raw with
  | str text =>
    have none : ¬Overlong (.str text) := not_overlong_of_isWritable rfl
    simp only [read, Value.str.injEq, none, false_and, or_false, exists_and_left, exists_eq_left']
    cases parsed : Json.parse text with
    | ok v =>
      have short : ¬Overlong v :=
        not_overlong_of_isWritable
          (Json.isJson_of_parse (fun n short => by simpa using short) parsed)
      simp [ofValue_raised_iff, short]
    | error fault => cases fault <;> simp [eq_comm]
  | _ => simp [read, ofValue_raised_iff]

end Program
end Workflow
