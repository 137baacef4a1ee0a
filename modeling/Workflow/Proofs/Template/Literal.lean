import Workflow.Proofs.Json.Shaped
import Workflow.Proofs.Template.Named

/-!
Values without placeholders. Resolution leaves them as they are, except that fixed sequences become
lists, so it cannot depend on any output. What stands within such a value is of the same kind.
-/
namespace Workflow

namespace Value

/-! ### Fixed sequences -/

mutual

/-- The same value with lists for fixed sequences, at every depth. -/
def listed : Value → Value
  | list items => list (listedItems items)
  | tuple items => list (listedItems items)
  | dict entries => dict (listedEntries entries)
  | keyed keys values => keyed keys (listedItems values)
  | v => v

def listedItems : List Value → List Value
  | [] => []
  | item :: rest => listed item :: listedItems rest

def listedEntries : List (String × Value) → List (String × Value)
  | [] => []
  | (key, value) :: rest => (key, listed value) :: listedEntries rest

end

mutual

theorem listed_of_isJson : ∀ v : Value, v.isJson = true → v.listed = v
  | null, _ | bool _, _ | int _, _ | float _, _ | str _, _ => rfl
  | list items, shaped => by rw [listed, listedItems_of_isJson items shaped]
  | dict entries, shaped => by rw [listed, listedEntries_of_isJson entries shaped]

theorem listedItems_of_isJson : ∀ items : List Value, isJsonItems items = true →
    listedItems items = items
  | [], _ => rfl
  | item :: rest, shaped => by
    simp only [isJsonItems, isJsonItemsOf, Bool.and_eq_true] at shaped
    rw [listedItems, listed_of_isJson item shaped.1, listedItems_of_isJson rest shaped.2]

theorem listedEntries_of_isJson : ∀ entries : List (String × Value),
    isJsonEntriesOf (fun _ => true) entries = true → listedEntries entries = entries
  | [], _ => rfl
  | (key, value) :: rest, shaped => by
    simp only [isJsonEntriesOf, Bool.and_eq_true] at shaped
    rw [listedEntries, listed_of_isJson value shaped.1, listedEntries_of_isJson rest shaped.2]

end

mutual

/-- Lists for fixed sequences hold the same texts. -/
theorem texts_listed : ∀ v : Value, v.listed.texts = v.texts
  | null | bool _ | int _ | float _ | str _ | foreign .. | unreadable _ => rfl
  | list items => by rw [listed, texts, texts, textsOfItems_listed items]
  | tuple items => by rw [listed, texts, texts, textsOfItems_listed items]
  | dict entries => by rw [listed, texts, texts, textsOfEntries_listed entries]
  | keyed keys values => by rw [listed, texts, texts, textsOfItems_listed values]

theorem textsOfItems_listed : ∀ items : List Value,
    textsOfItems (listedItems items) = textsOfItems items
  | [] => rfl
  | item :: rest => by
    rw [listedItems, textsOfItems, textsOfItems, texts_listed item, textsOfItems_listed rest]

theorem textsOfEntries_listed : ∀ entries : List (String × Value),
    textsOfEntries (listedEntries entries) = textsOfEntries entries
  | [] => rfl
  | (key, value) :: rest => by
    rw [listedEntries, textsOfEntries, textsOfEntries, texts_listed value,
      textsOfEntries_listed rest]

end

/-! ### Parts -/

mutual

/-- How many containers stand in one another at most. -/
def height : Value → Nat
  | list items => heightOfItems items + 1
  | tuple items => heightOfItems items + 1
  | dict entries => heightOfEntries entries + 1
  | keyed _ values => heightOfItems values + 1
  | _ => 0

def heightOfItems : List Value → Nat
  | [] => 0
  | item :: rest => max (height item) (heightOfItems rest)

def heightOfEntries : List (String × Value) → Nat
  | [] => 0
  | (_, value) :: rest => max (height value) (heightOfEntries rest)

end

mutual

theorem height_listed : ∀ v : Value, v.listed.height = v.height
  | null | bool _ | int _ | float _ | str _ | foreign .. | unreadable _ => rfl
  | list items => by rw [listed, height, height, heightOfItems_listed items]
  | tuple items => by rw [listed, height, height, heightOfItems_listed items]
  | dict entries => by rw [listed, height, height, heightOfEntries_listed entries]
  | keyed keys values => by rw [listed, height, height, heightOfItems_listed values]

theorem heightOfItems_listed : ∀ items : List Value,
    heightOfItems (listedItems items) = heightOfItems items
  | [] => rfl
  | item :: rest => by
    rw [listedItems, heightOfItems, heightOfItems, height_listed item, heightOfItems_listed rest]

theorem heightOfEntries_listed : ∀ entries : List (String × Value),
    heightOfEntries (listedEntries entries) = heightOfEntries entries
  | [] => rfl
  | (key, value) :: rest => by
    rw [listedEntries, heightOfEntries, heightOfEntries, height_listed value,
      heightOfEntries_listed rest]

end

theorem height_le_of_item {item : Value} {items : List Value} (member : item ∈ items) :
    item.height ≤ heightOfItems items := by
  induction items with
  | nil => cases member
  | cons first rest ih =>
    rw [heightOfItems]
    rcases List.mem_cons.1 member with rfl | later
    · exact Nat.le_max_left _ _
    · exact (ih later).trans (Nat.le_max_right _ _)

theorem height_le_of_entry {key : String} {value : Value} {entries : List (String × Value)}
    (member : (key, value) ∈ entries) : value.height ≤ heightOfEntries entries := by
  induction entries with
  | nil => cases member
  | cons first rest ih =>
    rw [heightOfEntries]
    rcases List.mem_cons.1 member with rfl | later
    · exact Nat.le_max_left _ _
    · exact (ih later).trans (Nat.le_max_right _ _)

/-- Entries are no higher than the highest value among them. -/
theorem heightOfEntries_lt {entries : List (String × Value)} {bound : Nat} (positive : 0 < bound)
    (below : ∀ entry ∈ entries, entry.2.height < bound) : heightOfEntries entries < bound := by
  induction entries with
  | nil => exact positive
  | cons first rest ih =>
    rw [heightOfEntries]
    exact Nat.max_lt.2 ⟨below first (by simp),
      ih fun entry member => below entry (List.mem_cons_of_mem first member)⟩

/-- A value stands in another, at any depth of items and entries, or is it. -/
inductive Within (v : Value) : Value → Prop
  | here : Within v v
  | item {items : List Value} {item : Value} : item ∈ items → Within v item → Within v (.list items)
  | place {items : List Value} {item : Value} :
    item ∈ items → Within v item → Within v (.tuple items)
  | entry {entries : List (String × Value)} {key : String} {value : Value} :
    (key, value) ∈ entries → Within v value → Within v (.dict entries)
  | keyed {keys : List Key} {values : List Value} {value : Value} :
    value ∈ values → Within v value → Within v (.keyed keys values)

namespace Within

variable {v w : Value}

theorem holds {text : String} (within : v.Within w) (held : v.Holds text) : w.Holds text := by
  induction within with
  | here => exact held
  | item member _ ih => exact .item member ih
  | place member _ ih => exact .place member ih
  | entry member _ ih => exact .entry member ih
  | keyed member _ ih => exact .keyed member ih

theorem trans {u : Value} (first : u.Within v) (second : v.Within w) : u.Within w := by
  induction second with
  | here => exact first
  | item member _ ih => exact .item member ih
  | place member _ ih => exact .place member ih
  | entry member _ ih => exact .entry member ih
  | keyed member _ ih => exact .keyed member ih

theorem height_le (within : v.Within w) : v.height ≤ w.height := by
  induction within with
  | here => exact Nat.le_refl _
  | item member _ ih | place member _ ih | keyed member _ ih =>
    exact (ih.trans (height_le_of_item member)).trans (Nat.le_succ _)
  | entry member _ ih => exact (ih.trans (height_le_of_entry member)).trans (Nat.le_succ _)

end Within

/-- A value stands in another and lies lower than this. -/
def Inside (v w : Value) : Prop := v.Within w ∧ v.height < w.height

namespace Inside

theorem trans {u v w : Value} (first : u.Inside v) (second : v.Inside w) : u.Inside w :=
  ⟨first.1.trans second.1, first.2.trans second.2⟩

theorem of_item {item : Value} {items : List Value} (member : item ∈ items) :
    item.Inside (.list items) :=
  ⟨.item member .here, Nat.lt_succ_of_le (height_le_of_item member)⟩

theorem of_entry {key : String} {value : Value} {entries : List (String × Value)}
    (member : (key, value) ∈ entries) : value.Inside (.dict entries) :=
  ⟨.entry member .here, Nat.lt_succ_of_le (height_le_of_entry member)⟩

theorem of_keyed {keys : List Key} {value : Value} {values : List Value}
    (member : value ∈ values) : value.Inside (.keyed keys values) :=
  ⟨.keyed member .here, Nat.lt_succ_of_le (height_le_of_item member)⟩

/-- What an object shows stands inside it. -/
theorem of_shown {v value : Value} {key : String} {entries : List (String × Value)}
    (shown : v.shownEntries? = some entries) (member : (key, value) ∈ entries) :
    value.Inside v := by
  cases v with
  | dict _ =>
    cases shown
    exact of_entry member
  | keyed keys values =>
    cases shown
    obtain ⟨pair, zipped, kept⟩ := List.mem_filterMap.1 member
    obtain ⟨_, _, same⟩ := Option.map_eq_some_iff.1 kept
    cases same
    exact of_keyed (List.of_mem_zip zipped).2
  | unreadable message =>
    cases shown
    cases member
  | _ => cases shown

/-- What is read under a key of an object stands inside it. -/
theorem of_field {v value : Value} {key : String} (found : v.field? key = some value) :
    value.Inside v := by
  obtain ⟨entries, shown, found⟩ := exists_of_field found
  exact of_shown shown (Entries.mem_of_lookup found)

end Inside
end Value

namespace Template

/-- No string in a value has a placeholder. -/
def Literal (v : Value) : Prop := ∀ expression, ¬HasPlaceholder expression v

theorem literal_iff (v : Value) : Literal v ↔ placeholders v = [] := by
  rw [List.eq_nil_iff_forall_not_mem, Literal]
  simp only [mem_placeholders_iff]

theorem Literal.of_holds {v w : Value} (literal : Literal w)
    (inside : ∀ text, v.Holds text → w.Holds text) : Literal v :=
  fun expression has => literal expression (has.of_holds inside)

theorem Literal.within {v w : Value} (literal : Literal w) (within : v.Within w) : Literal v :=
  literal.of_holds fun _ => within.holds

theorem Literal.listed {v : Value} (literal : Literal v) : Literal v.listed := by
  refine literal.of_holds fun text held => ?_
  rw [← Value.mem_texts_iff, Value.texts_listed] at held
  exact (Value.mem_texts_iff ..).1 held

variable (outputs : Outputs)

theorem resolveText_of_literal {text : String} (literal : Literal (.str text)) :
    resolveText text outputs = .ok (.str text) := by
  have bare : Piece.Bare text.toList := fun before expression after plain split =>
    literal expression ⟨text, before, after, .here, split, plain⟩
  by_cases empty : text.toList = []
  · obtain rfl : text = "" := String.toList_eq_nil_iff.1 empty
    rfl
  · have pieces := Piece.ofChars_of_bare empty bare
    unfold resolveText
    rw [pieces]
    simp only [fill, pieceTexts, pieceText, String.ofList_toList]
    exact congrArg (fun text => Except.ok (Value.str text)) String.empty_append

mutual

/-- A value without placeholders resolves to itself, with lists for fixed sequences. -/
theorem resolve_of_literal : ∀ v w : Value, Literal v → resolve outputs v = .ok w → w = v.listed
  | .null, _, _, success | .bool _, _, _, success | .int _, _, _, success
  | .float _, _, _, success | .foreign .., _, _, success => (Except.ok.inj success).symm
  | .unreadable _, _, _, success => by cases success
  | .str text, _, literal, success => by
    rw [resolve, resolveText_of_literal outputs literal] at success
    exact (Except.ok.inj success).symm
  | .list items, _, literal, success => by
    obtain ⟨resolved, parts, rfl⟩ := Success.map_ok success
    rw [Value.listed, resolveItems_of_literal items resolved
      (fun item member => literal.within (.item member .here)) parts]
  | .tuple items, _, literal, success => by
    obtain ⟨resolved, parts, rfl⟩ := Success.map_ok success
    rw [Value.listed, resolveItems_of_literal items resolved
      (fun item member => literal.within (.place member .here)) parts]
  | .dict entries, _, literal, success => by
    obtain ⟨resolved, parts, rfl⟩ := Success.map_ok success
    rw [Value.listed, resolveEntries_of_literal entries resolved
      (fun key value member => literal.within (.entry member .here)) parts]
  | .keyed keys values, _, literal, success => by
    obtain ⟨resolved, parts, rfl⟩ := Success.map_ok success
    rw [Value.listed, resolveItems_of_literal values resolved
      (fun value member => literal.within (.keyed member .here)) parts]

theorem resolveItems_of_literal : ∀ items resolved : List Value,
    (∀ item ∈ items, Literal item) → resolveItems outputs items = .ok resolved →
      resolved = Value.listedItems items
  | [], _, _, success => (Except.ok.inj success).symm
  | item :: rest, _, literal, success => by
    obtain ⟨w, head, success⟩ := Success.bind_ok success
    obtain ⟨others, tail, same⟩ := Success.bind_ok success
    cases same
    rw [Value.listedItems, resolve_of_literal item w (literal item (by simp)) head,
      resolveItems_of_literal rest others
        (fun other member => literal other (List.mem_cons_of_mem item member)) tail]

theorem resolveEntries_of_literal : ∀ entries resolved : List (String × Value),
    (∀ key value, (key, value) ∈ entries → Literal value) →
      resolveEntries outputs entries = .ok resolved → resolved = Value.listedEntries entries
  | [], _, _, success => (Except.ok.inj success).symm
  | (key, value) :: rest, _, literal, success => by
    obtain ⟨w, head, success⟩ := Success.bind_ok success
    obtain ⟨others, tail, same⟩ := Success.bind_ok success
    cases same
    rw [Value.listedEntries, resolve_of_literal value w (literal key value (by simp)) head,
      resolveEntries_of_literal rest others
        (fun other value' member => literal other value' (List.mem_cons_of_mem _ member)) tail]

end

mutual

/-- A value of JSON without placeholders resolves. -/
theorem resolve_of_isJson : ∀ v : Value, Literal v → v.isJson = true → resolve outputs v = .ok v
  | .null, _, _ | .bool _, _, _ | .int _, _, _ | .float _, _, _ => rfl
  | .str text, literal, _ => resolveText_of_literal outputs literal
  | .list items, literal, shaped => by
    rw [resolve, resolveItems_of_isJson items
      (fun item member => literal.within (.item member .here)) shaped]
    rfl
  | .dict entries, literal, shaped => by
    rw [resolve, resolveEntries_of_isJson entries
      (fun key value member => literal.within (.entry member .here)) shaped]
    rfl

theorem resolveItems_of_isJson : ∀ items : List Value, (∀ item ∈ items, Literal item) →
    Value.isJsonItems items = true → resolveItems outputs items = .ok items
  | [], _, _ => rfl
  | item :: rest, literal, shaped => by
    simp only [Value.isJsonItems, Value.isJsonItemsOf, Bool.and_eq_true] at shaped
    rw [resolveItems, resolve_of_isJson item (literal item (by simp)) shaped.1,
      resolveItems_of_isJson rest
        (fun other member => literal other (List.mem_cons_of_mem item member)) shaped.2]
    rfl

theorem resolveEntries_of_isJson : ∀ entries : List (String × Value),
    (∀ key value, (key, value) ∈ entries → Literal value) →
      Value.isJsonEntriesOf (fun _ => true) entries = true →
      resolveEntries outputs entries = .ok entries
  | [], _, _ => rfl
  | (key, value) :: rest, literal, shaped => by
    simp only [Value.isJsonEntriesOf, Bool.and_eq_true] at shaped
    rw [resolveEntries, resolve_of_isJson value (literal key value (by simp)) shaped.1,
      resolveEntries_of_isJson rest
        (fun other value' member => literal other value' (List.mem_cons_of_mem _ member)) shaped.2]
    rfl

end

end Template
end Workflow
