import Mathlib.Data.List.Nodup
import Workflow.Proofs.Program.Reordered
import Workflow.Proofs.Run.Boundary
import Workflow.Proofs.Terminal.Shown
import Workflow.Proofs.Value.Decidable

/-!
What is accepted as a program. `Program.Item` says of a submitted JSON value that it is a step,
field by field, and `Program.Spells` which step it is. A list is accepted exactly if it is not
empty, has steps only, and no two of them share an id; it makes no difference in which form it is
submitted, and an accepted program that is handed out and submitted again is the same program.
Numbers of too many digits have no text, and ids and tools have no unpaired surrogates.
-/
namespace Workflow

/-! ### Fields -/

/-- The text that a value stands for where a text is due: a string itself, and a number by its
text, if it has one. -/
def Value.label? : Value → Option String
  | .str s => some s
  | .int n => if Text.isOverlong n then none else some (toString n)
  | .float x => some x.text
  | _ => none

/-- A text that can be an id: it is not empty and has no unpaired surrogate. -/
def Text.Names (text : String) : Prop := text ≠ "" ∧ isUnicode text = true

instance (text : String) : Decidable (Text.Names text) := inferInstanceAs (Decidable (_ ∧ _))

/-- The text that stands under a key. -/
def Value.labelAt? (key : String) (v : Value) : Option String := (v.field? key).bind label?

namespace Fields

theorem label_ok_iff (v : Value) (text : String) : label v = .ok text ↔ v.label? = some text := by
  cases v with
  | int n => by_cases long : Text.isOverlong n <;> simp [label, decimal, Value.label?, long]
  | _ => simp [label, Value.label?]

theorem nonempty_label_ok_iff (v : Value) (text : String) :
    nonempty label v = .ok text ↔ v.label? = some text ∧ Text.Names text := by
  rw [← label_ok_iff, nonempty, Text.Names]
  cases label v with
  | error fault => simp [bind, Except.bind]
  | ok found =>
    cases whole : Text.isUnicode found with
    | false =>
      simp only [bind, Except.bind, whole, Bool.not_false, if_true, reduceCtorEq, Except.ok.injEq,
        false_iff]
      rintro ⟨rfl, _, unicode⟩
      rw [whole] at unicode
      cases unicode
    | true =>
      by_cases empty : found = "" <;>
        simp only [bind, Except.bind, whole, Bool.not_true, Bool.false_eq_true, empty, if_true,
          if_false, pure, Except.pure] <;> grind

theorem nullable_label_ok_iff (v : Value) (text? : Option String) :
    nullable label v = .ok text? ↔
      v = .null ∧ text? = none ∨ ∃ text, v.label? = some text ∧ text? = some text := by
  by_cases null : v = .null
  · subst null
    simp [nullable, Value.label?, eq_comm]
  · have read : nullable label v = some <$> label v := by
      cases v <;> first | rfl | exact absurd rfl null
    rw [read]
    simp only [null, false_and, false_or, ← label_ok_iff]
    cases label v <;> simp [eq_comm]

/-- Of JSON values only an object has entries. -/
theorem entries_ok_iff {v : Value} (shaped : v.isJson = true) (listed : List (String × Value)) :
    entries labelKey v = .ok listed ↔ v = .dict listed := by
  cases v with
  | keyed keys values => cases shaped
  | _ => simp [entries]

end Fields

/-! ### Steps -/

namespace Program

/-- What stands under a key is absent, null, or stands for a text. -/
def Remark (key : String) (item : Value) : Prop :=
  item.field? key = none ∨ item.field? key = some .null ∨ ∃ text, item.labelAt? key = some text

/-- A submitted value is a step: an object with an id and a tool, arguments that are an object if
there are any, and two remarks. -/
structure Item (item : Value) : Prop where
  object : ∃ fields, item = .dict fields
  id : ∃ text, item.labelAt? "id" = some text ∧ Text.Names text
  tool : ∃ text, item.labelAt? "tool" = some text ∧ Text.Names text
  args : item.field? "args" = none ∨ ∃ entries, item.field? "args" = some (.dict entries)
  description : Remark "description" item
  expert : Remark "expert" item

/-- The text of a remark. -/
def Remarks (key : String) (item : Value) (text? : Option String) : Prop :=
  text? = none ∧ (item.field? key = none ∨ item.field? key = some .null) ∨
    ∃ text, text? = some text ∧ item.labelAt? key = some text

/-- The fields of a submitted value are those of a step, numbers standing for their texts. -/
structure Spells (item : Value) (step : Step) : Prop where
  object : ∃ fields, item = .dict fields
  id : item.labelAt? "id" = some step.id
  id_names : Text.Names step.id
  tool : item.labelAt? "tool" = some step.tool
  tool_names : Text.Names step.tool
  args : item.field? "args" = none ∧ step.args = [] ∨ item.field? "args" = some (.dict step.args)
  description : Remarks "description" item step.description
  expert : Remarks "expert" item step.expert

theorem remark_iff (key : String) (item : Value) :
    Remark key item ↔ ∃ text?, Remarks key item text? := by
  constructor
  · rintro (absent | null | ⟨text, held⟩)
    · exact ⟨none, .inl ⟨rfl, .inl absent⟩⟩
    · exact ⟨none, .inl ⟨rfl, .inr null⟩⟩
    · exact ⟨some text, .inr ⟨text, rfl, held⟩⟩
  · rintro ⟨text?, ⟨_, absent | null⟩ | ⟨text, _, held⟩⟩
    · exact .inl absent
    · exact .inr (.inl null)
    · exact .inr (.inr ⟨text, held⟩)

theorem item_iff (item : Value) : Item item ↔ ∃ step, Spells item step := by
  constructor
  · rintro ⟨object, ⟨id, named, proper⟩, ⟨tool, called, proper'⟩, args, description, expert⟩
    obtain ⟨description?, described⟩ := (remark_iff _ _).1 description
    obtain ⟨expert?, assigned⟩ := (remark_iff _ _).1 expert
    rcases args with absent | ⟨entries, held⟩
    · exact ⟨⟨id, tool, [], description?, expert?⟩, object, named, proper, called, proper',
        .inl ⟨absent, rfl⟩, described, assigned⟩
    · exact ⟨⟨id, tool, entries, description?, expert?⟩, object, named, proper, called, proper',
        .inr held, described, assigned⟩
  · rintro ⟨step, spells⟩
    exact ⟨spells.object, ⟨_, spells.id, spells.id_names⟩, ⟨_, spells.tool, spells.tool_names⟩,
      spells.args.imp And.left fun held => ⟨_, held⟩, (remark_iff _ _).2 ⟨_, spells.description⟩,
      (remark_iff _ _).2 ⟨_, spells.expert⟩⟩

end Program

namespace Step
open Fields Program

theorem ofFields_ok_iff (location : List String) (fields : List (String × Value)) (step : Step) :
    ofFields location fields = .ok step ↔
      required location fields "id" (nonempty label) = .ok step.id ∧
      required location fields "tool" (nonempty label) = .ok step.tool ∧
      optional location fields "args" [] (entries labelKey) = .ok step.args ∧
      optional location fields "description" none (nullable label) = .ok step.description ∧
      optional location fields "expert" none (nullable label) = .ok step.expert := by
  constructor
  · intro success
    simp only [ofFields] at success
    split at success
    next id tool args description expert =>
      cases success
      exact ⟨id, tool, args, description, expert⟩
    · cases success
  · rintro ⟨id, tool, args, description, expert⟩
    simp only [ofFields, id, tool, args, description, expert]

theorem required_label_ok_iff {location : List String} {fields : List (String × Value)}
    {name text : String} :
    required location fields name (nonempty label) = .ok text ↔
      (Value.dict fields).labelAt? name = some text ∧ Text.Names text := by
  rw [required_ok_iff, Value.labelAt?, Option.bind_eq_some_iff]
  simp only [nonempty_label_ok_iff, Value.field?_dict]
  grind

theorem optional_label_ok_iff {location : List String} {fields : List (String × Value)}
    {name : String} {text? : Option String} :
    optional location fields name none (nullable label) = .ok text? ↔
      Remarks name (.dict fields) text? := by
  rw [optional_ok_iff, Remarks, Value.labelAt?]
  simp only [nullable_label_ok_iff, Value.field?_dict, Option.bind_eq_some_iff]
  grind

/-- A JSON value is read as a step exactly where it spells this step. -/
theorem ofValue_ok_iff (location : List String) {item : Value} (shaped : item.isJson = true)
    (step : Step) : ofValue location item = .ok step ↔ Spells item step := by
  cases item with
  | dict fields =>
    have read : ofValue location (.dict fields) = ofFields location fields := rfl
    rw [read, ofFields_ok_iff, required_label_ok_iff, required_label_ok_iff, optional_ok_iff,
      optional_label_ok_iff, optional_label_ok_iff]
    constructor
    · rintro ⟨⟨id, proper⟩, ⟨tool, proper'⟩, args, description, expert⟩
      refine ⟨⟨fields, rfl⟩, id, proper, tool, proper', ?_, description, expert⟩
      rcases args with ⟨absent, none⟩ | ⟨v, held, listed⟩
      · exact .inl ⟨absent, none⟩
      · rw [(entries_ok_iff (Value.isJson_of_field shaped held) _).1 listed] at held
        exact .inr held
    · rintro ⟨_, id, proper, tool, proper', args, description, expert⟩
      exact ⟨⟨id, proper⟩, ⟨tool, proper'⟩, args.imp_right fun held => ⟨_, held, rfl⟩,
        description, expert⟩
  | keyed keys values => cases shaped
  | unreadable message => cases shaped
  | _ => exact ⟨nofun, fun spells => nomatch spells.object⟩

/-- The value that a step is handed out as. -/
def dumped (step : Step) : Value :=
  .dict [("id", .str step.id), ("tool", .str step.tool),
    ("args", .dict (Descriptor.shownEntries step.args)),
    ("description", step.description.elim .null .str), ("expert", step.expert.elim .null .str)]

theorem remarks_elim {key : String} {item : Value} {text? : Option String}
    (held : item.field? key = some (text?.elim .null .str)) : Remarks key item text? := by
  cases text? with
  | none => exact .inl ⟨rfl, .inr held⟩
  | some text =>
    refine .inr ⟨text, rfl, ?_⟩
    rw [Value.labelAt?, held]
    rfl

theorem isJson_dumped {step : Step} (shaped : (Value.dict step.args).isJson = true) :
    step.dumped.isJson = true := by
  rw [dumped, Descriptor.shownEntries_of_isJson step.args shaped]
  have texts (text? : Option String) : (text?.elim Value.null .str).isJson = true := by
    cases text? <;> rfl
  simp only [Value.isJson, Value.isJsonOf, Value.isJsonEntriesOf, Bool.true_and, Bool.and_true,
    Bool.and_eq_true]
  exact ⟨shaped, texts _, texts _⟩

/-- A step that is handed out spells itself, if JSON can stand for its arguments. -/
theorem spells_dumped {step : Step} (id : Text.Names step.id) (tool : Text.Names step.tool)
    (shaped : (Value.dict step.args).isJson = true) : Spells step.dumped step := by
  refine ⟨⟨_, rfl⟩, rfl, id, rfl, tool, .inr ?_, remarks_elim rfl, remarks_elim rfl⟩
  rw [dumped, Descriptor.shownEntries_of_isJson step.args shaped]
  rfl

end Step

/-! ### Programs -/

namespace Program

/-- A list is read as a program exactly where its items spell the steps and no id stands twice. -/
theorem ofSteps_ok_iff {items : List Value} (shaped : Value.isJsonItems items = true)
    (program : Program) :
    ofSteps items = .ok program ↔
      List.Forall₂ Spells items program.steps ∧ (program.steps.map Step.id).Nodup := by
  have spelled (steps : List Step) :
      stepsFrom 0 items = .ok steps ↔ List.Forall₂ Spells items steps := by
    rw [stepsFrom_ok_iff]
    clear * - shaped
    induction items generalizing steps with
    | nil => rw [List.forall₂_nil_left_iff, List.forall₂_nil_left_iff]
    | cons item rest ih =>
      simp only [Value.isJsonItems, Value.isJsonItemsOf, Bool.and_eq_true] at shaped
      simp only [List.forall₂_cons_left_iff, Step.ofValue_ok_iff [] shaped.1, ih shaped.2]
  have distinct (steps : List Step) :
      duplicateId? [] steps = none ↔ (steps.map Step.id).Nodup := by
    simp [duplicateId?_eq_none_iff]
  rw [← spelled, ← distinct]
  refine ⟨ofSteps_ok, ?_⟩
  rintro ⟨read, unique⟩
  simp only [ofSteps, read, bind, Except.bind, unique]
  rfl

/-- Items that spell steps have the same ids as these. -/
theorem ids_of_spells {items : List Value} {steps : List Step}
    (spelled : List.Forall₂ Spells items steps) :
    items.map (Value.labelAt? "id") = (steps.map Step.id).map some := by
  induction spelled with
  | nil => rfl
  | cons first _ ih => rw [List.map_cons, List.map_cons, List.map_cons, first.id, ih]

theorem nodup_ids_iff {items : List Value} {steps : List Step}
    (spelled : List.Forall₂ Spells items steps) :
    (items.map (Value.labelAt? "id")).Nodup ↔ (steps.map Step.id).Nodup := by
  rw [ids_of_spells spelled]
  exact List.nodup_map_iff fun _ _ => Option.some.inj

theorem named_of_spells {items : List Value} {steps : List Step}
    (spelled : List.Forall₂ Spells items steps) :
    ∀ step ∈ steps, Text.Names step.id ∧ Text.Names step.tool := by
  induction spelled with
  | nil => simp
  | cons first _ ih => exact List.forall_mem_cons.2 ⟨⟨first.id_names, first.tool_names⟩, ih⟩

theorem exists_spells_iff (items : List Value) :
    (∃ steps, List.Forall₂ Spells items steps) ↔ ∀ item ∈ items, Item item := by
  induction items with
  | nil => simp
  | cons item rest ih =>
    rw [List.forall_mem_cons, ← ih, item_iff]
    simp only [List.forall₂_cons_left_iff]
    constructor
    · rintro ⟨_, step, steps, first, later, rfl⟩
      exact ⟨⟨step, first⟩, steps, later⟩
    · rintro ⟨⟨step, first⟩, steps, later⟩
      exact ⟨step :: steps, step, steps, first, later, rfl⟩

/-- The values that hold a list of steps: the list, an object with it under `steps` or under
`program`, and an object with such an object under `program`. -/
inductive Holds (items : List Value) : Value → Prop
  | list : Holds items (.list items)
  | steps : Holds items (.dict [("steps", .list items)])
  | wrapped : Holds items (.dict [("program", .dict [("steps", .list items)])])
  | program : Holds items (.dict [("program", .list items)])

/-- The forms in which a list of steps is submitted. -/
inductive Submits (items : List Value) : Value → Prop
  | value {v : Value} : Holds items v → Submits items v
  | text {text : String} {v : Value} : Json.parse text = .ok v → Holds items v →
    Submits items (.str text)

theorem ofValue_of_holds {items : List Value} {v : Value} (holds : Holds items v) :
    ofValue v = ofValue (.list items) := by
  cases holds <;> rfl

/-- A list of steps is read alike in every form. -/
theorem read_of_submits {items : List Value} {raw : Value} (submits : Submits items raw) :
    read raw = ofValue (.list items) := by
  cases submits with
  | value holds =>
    rw [← ofValue_of_holds holds]
    cases holds <;> rfl
  | text parsed holds => simp only [read, parsed, ofValue_of_holds holds]

theorem ofValue_list_ok_iff {items : List Value} (shaped : Value.isJsonItems items = true)
    (program : Program) :
    ofValue (.list items) = .ok program ↔
      items ≠ [] ∧ List.Forall₂ Spells items program.steps ∧
        (program.steps.map Step.id).Nodup := by
  rw [← ofSteps_ok_iff shaped]
  cases items with
  | nil => simp [ofValue, stepsEntry?]
  | cons first rest => simp [ofValue, stepsEntry?, Success.mapError_ok_iff]

/-- Two steps, the first with the number one for an id. -/
def numbered (second : Value) : List Value :=
  [.dict [("id", .int 1), ("tool", .str "fetch")],
    .dict [("id", second), ("tool", .str "fetch"), ("expert", .null)]]

end Program
end Workflow
