import Workflow.Engine
import Workflow.Proofs.Program.Arguments
import Workflow.Terminal.View

/-!
What can always be shown. A program whose arguments JSON can stand for has its table, and so has
every answer of an engine about its tools. Neither puts up a panel for the end of a run.
-/
namespace Workflow

namespace Schema

variable {kind : Int → Bool}

mutual

theorem isJson_toValue : ∀ schema : Schema, schema.toValue.isJsonOf kind = true
  | leaf _ => rfl
  | emptyArray => rfl
  | array item => by
    simp only [toValue, Value.isJsonOf, Value.isJsonItemsOf, isJson_toValue item, Bool.and_self]
  | object fields => isJsonEntries_fieldValues fields

theorem isJsonEntries_fieldValues : ∀ fields : List (String × Schema),
    Value.isJsonEntriesOf kind (fieldValues fields) = true
  | [] => rfl
  | (key, field) :: rest => by
    simp only [fieldValues, Value.isJsonEntriesOf, isJson_toValue field,
      isJsonEntries_fieldValues rest, Bool.and_self]

end

end Schema

namespace Descriptor

variable {kind : Int → Bool}

mutual

/-- A value of JSON is handed out as it is. -/
theorem shown_of_isJson : ∀ v : Value, v.isJsonOf kind = true → shown v = v
  | .null, _ | .bool _, _ | .int _, _ | .float _, _ | .str _, _ => rfl
  | .list items, shaped => by rw [shown, shownItems_of_isJson items shaped]
  | .dict entries, shaped => by rw [shown, shownEntries_of_isJson entries shaped]

theorem shownItems_of_isJson : ∀ items : List Value, Value.isJsonItemsOf kind items = true →
    shownItems items = items
  | [], _ => rfl
  | item :: rest, shaped => by
    simp only [Value.isJsonItemsOf, Bool.and_eq_true] at shaped
    rw [shownItems, shown_of_isJson item shaped.1, shownItems_of_isJson rest shaped.2]

theorem shownEntries_of_isJson : ∀ entries : List (String × Value),
    Value.isJsonEntriesOf kind entries = true → shownEntries entries = entries
  | [], _ => rfl
  | (key, value) :: rest, shaped => by
    simp only [Value.isJsonEntriesOf, Bool.and_eq_true] at shaped
    rw [shownEntries, shown_of_isJson value shaped.1, shownEntries_of_isJson rest shaped.2]

end

/-- What was learned is handed out as it is, and is never absent. -/
theorem resultEntry_toValue (schema : Schema) :
    resultEntry schema.toValue = [("result_schema", schema.toValue)] := by
  have json : schema.toValue.isJson = true := schema.isJson_toValue
  have itself := shown_of_isJson _ json
  cases schema with
  | leaf kind => rfl
  | _ =>
    simp only [Schema.toValue] at itself ⊢
    simp only [resultEntry, itself]

end Descriptor

namespace Terminal

/-- The title of a panel; nothing else has one. -/
def Printed.title? : Printed → Option Label
  | .panel shown => shown.title
  | _ => none

/-- The titles of the panels that were printed, in order. -/
def titles (printed : List Printed) : List Label := printed.filterMap Printed.title?

@[simp]
theorem titles_append (first later : List Printed) :
    titles (first ++ later) = titles first ++ titles later := by
  simp [titles]

@[simp]
theorem titles_banner (source : String) (tools : Int) : titles (banner source tools) = [] := rfl

theorem argsCells_ok {steps : List Step} (shaped : Program.TakesJson (!Text.isOverlong ·) steps) :
    ∃ cells, argsCells steps = .ok cells := by
  induction steps with
  | nil => exact ⟨[], rfl⟩
  | cons step rest ih =>
    obtain ⟨cells, later⟩ := ih fun other member => shaped other (List.mem_cons_of_mem step member)
    have written := Json.writeChecked_of_isWritable true Json.spaced (shaped step (by simp))
    refine ⟨escape (mono (Json.write Json.spaced (.dict step.args)) 60) :: cells, ?_⟩
    simp only [argsCells, argsCell, written, later]
    rfl

/-- A program of JSON is shown under one title. -/
theorem programParsed_ok {program : Program}
    (shaped : Program.TakesJson (!Text.isOverlong ·) program.steps) :
    ∃ table, programParsed program = .ok table ∧ titles table = [label "PROGRAM" "cyan"] := by
  obtain ⟨cells, written⟩ := argsCells_ok shaped
  simp only [programParsed, written]
  exact ⟨_, rfl, rfl⟩

theorem schemaCell_ok {schema : Value} (shaped : schema.isWritable = true) :
    ∃ cell, schemaCell schema = .ok cell := by
  unfold schemaCell
  split
  · exact ⟨_, rfl⟩
  · rw [Json.writeChecked_of_isWritable true Json.spacedAscii shaped]
    exact ⟨_, rfl⟩

/-- Every descriptor that an engine answers with has a row, also that of an unknown tool. -/
theorem descriptorRow_ok (c : Catalogue) (name : String) :
    ∃ row, descriptorRow (c.describe name).payload = .ok row := by
  cases declared : c.specs.lookup name with
  | none =>
    simp only [Catalogue.describe, declared]
    exact ⟨_, rfl⟩
  | some spec =>
    cases learned : c.schemaFor? name with
    | none =>
      simp only [Catalogue.describe, declared, learned]
      exact ⟨_, rfl⟩
    | some schema =>
      obtain ⟨cell, written⟩ := schemaCell_ok (Schema.isJson_toValue schema)
      refine ⟨(escape spec.name, escape spec.description, cell), ?_⟩
      simp only [Catalogue.describe, declared, learned, Option.elim, Descriptor.payload,
        Descriptor.resultEntry_toValue]
      simp [descriptorRow, Value.shownEntries?, objectRow, List.lookup_cons, entry, escapeValue,
        written, bind, Except.bind, pure, Except.pure]

theorem descriptorRows_ok (c : Catalogue) (names : List String) :
    ∃ rows, descriptorRows (names.map fun name => (c.describe name).payload) = .ok rows := by
  induction names with
  | nil => exact ⟨[], rfl⟩
  | cons name rest ih =>
    obtain ⟨row, first⟩ := descriptorRow_ok c name
    obtain ⟨rows, later⟩ := ih
    refine ⟨row :: rows, ?_⟩
    simp only [List.map_cons, descriptorRows, first, later]
    rfl

/-- What an engine says about tools named by texts is shown under one title. -/
theorem toolsInfo_ok {σ : Type} (engine : Engine σ) (names : List String) (s : Session σ) :
    ∃ info, engine.describeTools (.list (names.map .str)) s = .ok info ∧
      ∃ shown, toolsInfo info = .ok shown ∧ titles shown = [label "TOOLS" "cyan"] := by
  obtain ⟨rows, written⟩ := descriptorRows_ok (engine.catalogue s.learned) names
  refine ⟨_, Catalogue.answer_of_texts _ (Catalogue.mapM_text_str names), ?_⟩
  simp only [toolsInfo, entriesOf, itemsOf, Value.askEntries, Value.askItems, Value.shownEntries?,
    Value.items?, Success.mapError_ok, List.lookup_cons_self, Option.getD, bind, Except.bind,
    written]
  exact ⟨_, rfl, rfl⟩

end Terminal
end Workflow
