import Workflow.Proofs.Envelope.Errors

/-!
The forms in which a tool can answer with a value. `Forms` lists them: the value itself, under
`data`, under `result`, under both, with a JSON text inside or around. For a plain value these are
exactly the answers that stand for it, so it makes no difference in which of them it arrives.
-/
namespace Workflow.Envelope

/-- A value that is present, is no text, and has no envelope of its own. -/
structure Plain (x : Value) : Prop where
  present : x.truthy = true
  noText : ∀ text, x ≠ .str text
  noResult : x.field? "result" = none
  noData : ∀ data, x.field? "data" = some data → data.truthy = false

/-- A value itself, or an object with it under `data`. -/
inductive Holds (x : Value) : Value → Prop
  | bare : Holds x x
  | data {v : Value} : v.field? "data" = some x → Holds x v

/-- A value itself, an object with it under `data` and no `result`, or an object whose `result`
holds it, as a value or as a JSON text. -/
inductive Wraps (x : Value) : Value → Prop
  | bare : Wraps x x
  | data {v : Value} : v.field? "result" = none → v.field? "data" = some x → Wraps x v
  | result {v inner : Value} : v.field? "result" = some inner → Holds x inner → Wraps x v
  | resultText {v inner : Value} {text : String} : v.field? "result" = some (.str text) →
    Json.parse text = .ok inner → Holds x inner → Wraps x v

/-- The answers that stand for a value, as values or as JSON texts. -/
inductive Forms (x : Value) : Value → Prop
  | value {v : Value} : Wraps x v → Forms x v
  | text {v : Value} {text : String} : Json.parse text = .ok v → Wraps x v → Forms x (.str text)

/-! ### One envelope at a time -/

theorem decoded_of_parse {text : String} {v : Value} (parsed : Json.parse text = .ok v) :
    decoded (.str text) = v := by
  simp only [decoded, Json.parseOrText, parsed]

theorem decoded_str_eq_iff {v : Value} (noText : ∀ text, v ≠ .str text) (text : String) :
    decoded (.str text) = v ↔ Json.parse text = .ok v := by
  cases parsed : Json.parse text with
  | ok value => simp [decoded_of_parse parsed]
  | error e => simp [decoded, Json.parseOrText, parsed, (noText text).symm]

/-- What is decoded to a value that is no text is this value, or a JSON text of it. -/
theorem decoded_eq_iff {v : Value} (noText : ∀ text, v ≠ .str text) (raw : Value) :
    decoded raw = v ↔ raw = v ∨ ∃ text, raw = .str text ∧ Json.parse text = .ok v := by
  cases raw with
  | str text => simp [decoded_str_eq_iff noText, (noText text).symm]
  | _ => simp [decoded]

theorem ne_str_of_field {v inner : Value} {key : String} (found : v.field? key = some inner)
    (text : String) : v ≠ .str text := by
  rintro rfl
  cases found

variable {x : Value}

theorem Holds.ne_str {v : Value} (plain : Plain x) (holds : Holds x v) : ∀ text, v ≠ .str text := by
  cases holds with
  | bare => exact plain.noText
  | data found => exact ne_str_of_field found

theorem Wraps.ne_str {v : Value} (plain : Plain x) (wraps : Wraps x v) : ∀ text, v ≠ .str text := by
  cases wraps with
  | bare => exact plain.noText
  | data _ found => exact ne_str_of_field found
  | result found _ => exact ne_str_of_field found
  | resultText found _ _ => exact ne_str_of_field found

theorem withoutData_eq_iff (plain : Plain x) (v : Value) : withoutData v = x ↔ Holds x v := by
  constructor
  · intro same
    unfold withoutData at same
    split at same
    next inner found =>
      split at same
      next =>
        subst same
        exact .data found
      next =>
        subst same
        exact .bare
    next =>
      subst same
      exact .bare
  · intro holds
    cases holds with
    | bare =>
      unfold withoutData
      split
      next data found => simp [plain.noData data found]
      next => rfl
    | data found => simp only [withoutData, found, plain.present, if_true]

theorem holds_withoutResult_iff (plain : Plain x) (v : Value) :
    Holds x (withoutResult v) ↔ Wraps x v := by
  constructor
  · intro holds
    cases found : v.field? "result" with
    | none =>
      rw [withoutResult, found] at holds
      cases holds with
      | bare => exact .bare
      | data data => exact .data found data
    | some inner =>
      rw [withoutResult_of_field found] at holds
      rcases (decoded_eq_iff (holds.ne_str plain) inner).1 rfl with same | ⟨text, rfl, parsed⟩
      · exact .result found (same ▸ holds)
      · exact .resultText found parsed holds
  · intro wraps
    cases wraps with
    | bare =>
      rw [withoutResult, plain.noResult]
      exact .bare
    | data none data =>
      rw [withoutResult, none]
      exact .data data
    | result found holds =>
      rw [withoutResult_of_field found]
      rwa [(decoded_eq_iff (holds.ne_str plain) _).2 (.inl rfl)]
    | resultText found parsed holds =>
      rw [withoutResult_of_field found]
      rwa [decoded_of_parse parsed]

theorem wraps_decoded_iff (plain : Plain x) (raw : Value) :
    Wraps x (decoded raw) ↔ Forms x raw := by
  constructor
  · intro wraps
    rcases (decoded_eq_iff (wraps.ne_str plain) raw).1 rfl with same | ⟨text, rfl, parsed⟩
    · exact .value (same ▸ wraps)
    · exact .text parsed wraps
  · intro forms
    cases forms with
    | value wraps => rwa [(decoded_eq_iff (wraps.ne_str plain) raw).2 (.inl rfl)]
    | text parsed wraps => rwa [decoded_of_parse parsed]

/-- A plain value is what is inside exactly the forms of it. -/
theorem unwrap_eq_iff (plain : Plain x) (raw : Value) : unwrap raw = x ↔ Forms x raw :=
  calc
    unwrap raw = x ↔ Holds x (withoutResult (decoded raw)) := withoutData_eq_iff plain _
    _ ↔ Wraps x (decoded raw) := holds_withoutResult_iff plain _
    _ ↔ Forms x raw := wraps_decoded_iff plain raw

/-- An object that keeps its `data`, since there is nothing in it, is plain. -/
theorem plain_of_empty_data {v data : Value} (noResult : v.field? "result" = none)
    (found : v.field? "data" = some data) (empty : data.truthy = false) : Plain v where
  present := by
    obtain ⟨entries, shown, held⟩ := Value.exists_of_field found
    exact Value.truthy_of_entry shown (Entries.mem_of_lookup held)
  noText := ne_str_of_field found
  noResult := noResult
  noData other found' := by
    rw [found] at found'
    cases found'
    exact empty

/-- The forms of a plain value, and no other answers, are stored as this value. An object without
`result` whose `data` is empty is plain itself, so it stays as it is in all of its own forms. -/
theorem forms_stored_alike (v : Value) :
    (Plain v → ∀ raw, unwrap raw = v ↔ Forms v raw) ∧
      ∀ data, v.field? "result" = none → v.field? "data" = some data → data.truthy = false →
        Plain v ∧ ∀ raw, unwrap raw = v ↔ Forms v raw := by
  refine ⟨unwrap_eq_iff, fun data noResult found empty => ?_⟩
  have plain := plain_of_empty_data noResult found empty
  exact ⟨plain, unwrap_eq_iff plain⟩

/-- A list comes in a text with a `result` that is a text with `data`, and an object whose `data` is
an empty object comes in a text under `result`. -/
theorem forms_stored_alike_nested :
    let items : Value := .list [.int 1]
    let answer : Value := .str "\x7b\"result\": \"\x7b\\\"data\\\": [1]\x7d\", \"data\": 3\x7d"
    let kept : Value := .dict [("data", .dict []), ("n", .int 1)]
    Plain items ∧ unwrap answer = items ∧
      kept.field? "data" = some (.dict []) ∧ Plain kept ∧
      unwrap (.dict [("result", .str "\x7b\"data\": \x7b\x7d, \"n\": 1\x7d")]) = kept := by
  intro items answer kept
  have plain : Plain items := ⟨rfl, nofun, rfl, nofun⟩
  have inner : Json.parse "\x7b\"data\": [1]\x7d" = .ok (.dict [("data", items)]) :=
    (decoded_str_eq_iff (by nofun) _).1 (by decide +kernel)
  have outer : Json.parse "\x7b\"result\": \"\x7b\\\"data\\\": [1]\x7d\", \"data\": 3\x7d" =
      .ok (.dict [("result", .str "\x7b\"data\": [1]\x7d"), ("data", .int 3)]) :=
    (decoded_str_eq_iff (by nofun) _).1 (by decide +kernel)
  have nested := ((forms_stored_alike items).1 plain _).2
    (.text outer (.resultText rfl inner (.data rfl)))
  obtain ⟨plain', stored⟩ := (forms_stored_alike kept).2 (.dict []) rfl rfl rfl
  have parsed : Json.parse "\x7b\"data\": \x7b\x7d, \"n\": 1\x7d" = .ok kept :=
    (decoded_str_eq_iff (by nofun) _).1 (by decide +kernel)
  exact ⟨plain, nested, rfl, plain', (stored _).2 (.value (.resultText rfl parsed .bare))⟩

end Workflow.Envelope
