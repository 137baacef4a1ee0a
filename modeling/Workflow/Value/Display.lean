import Workflow.Text.Quoted
import Workflow.Value

/-!
Display text. A string and a foreign value show their own text; inside a container strings are
quoted. A fixed sequence of one item keeps a comma. An integer of too many digits has no text, and
neither have some foreign values and what holds one of these.
-/
namespace Workflow

/-- The form that a key has in the text of its object. -/
def Key.quoted : Key → String
  | text s => Text.quoted s
  | key => key.display

namespace Value

mutual

/-- The form that a value has inside a container. -/
def quoted : Value → String
  | null => "None"
  | bool b => if b then "True" else "False"
  | int n => toString n
  | float x => x.text
  | str s => Text.quoted s
  | list items => "[" ++ ", ".intercalate (quotedItems items) ++ "]"
  | tuple items =>
    "(" ++ ", ".intercalate (quotedItems items) ++ (if items.length = 1 then ",)" else ")")
  | dict entries => "\x7b" ++ ", ".intercalate (quotedEntries entries) ++ "\x7d"
  | keyed keys values =>
    let member (key : Key) (value : String) : String := key.quoted ++ ": " ++ value
    "\x7b" ++ ", ".intercalate (List.zipWith member keys (quotedItems values)) ++ "\x7d"
  | foreign object => object.text.toOption.getD ""
  | unreadable _ => "\x7b\x7d"

def quotedItems : List Value → List String
  | [] => []
  | item :: rest => quoted item :: quotedItems rest

def quotedEntries : List (String × Value) → List String
  | [] => []
  | (key, value) :: rest => (Text.quoted key ++ ": " ++ quoted value) :: quotedEntries rest

end

/-- The text of a value that has one. -/
def display : Value → String
  | str s => s
  | v => quoted v

mutual

/-- What asking for the text of a value raises, for its first part without one. -/
def untold? : Value → Option Raised
  | int n => if Text.isOverlong n then some .overlong else none
  | list items => untoldAmong? items
  | tuple items => untoldAmong? items
  | dict entries => untoldInEntries? entries
  | keyed keys values => untoldKeyed? keys values
  | foreign object => match object.text with
    | .error e => some e.1
    | .ok _ => none
  | _ => none

def untoldAmong? : List Value → Option Raised
  | [] => none
  | item :: rest => (untold? item).or (untoldAmong? rest)

def untoldInEntries? : List (String × Value) → Option Raised
  | [] => none
  | (_, value) :: rest => (untold? value).or (untoldInEntries? rest)

def untoldKeyed? (keys : List Key) : List Value → Option Raised
  | [] => none
  | value :: rest =>
    ((keys.head?.bind Key.untold?).or (untold? value)).or (untoldKeyed? keys.tail rest)

end

/-- The text of a value. -/
def text (v : Value) : Except Raised String :=
  match v.untold? with
  | some e => .error e
  | none => .ok v.display

/-! What asking for a text raises can be told about. -/

theorem description_overlong : Raised.overlong.description ≠ "" := by decide

theorem description_ne_empty_of_untold_key {key : Key} {e : Raised}
    (untold : key.untold? = some e) : e.description ≠ "" := by
  unfold Key.untold? at untold
  split at untold
  · split at untold
    · cases untold
      exact description_overlong
    · cases untold
  · cases untold

mutual

theorem description_ne_empty_of_untold {e : Raised} : ∀ {v : Value},
    v.untold? = some e → e.description ≠ ""
  | .int n, untold => by
    rw [untold?] at untold
    split at untold
    · cases untold
      exact description_overlong
    · cases untold
  | .list items, untold | .tuple items, untold => description_ne_empty_of_among items untold
  | .dict entries, untold => description_ne_empty_of_inEntries entries untold
  | .keyed keys values, untold => description_ne_empty_of_keyed keys values untold
  | .foreign object, untold => by
    rw [untold?] at untold
    split at untold
    next told _ =>
      cases untold
      exact told.2
    · cases untold
  | .null, untold | .bool _, untold | .float _, untold | .str _, untold
  | .unreadable _, untold => by cases untold

theorem description_ne_empty_of_among {e : Raised} : ∀ items : List Value,
    untoldAmong? items = some e → e.description ≠ ""
  | [], untold => by cases untold
  | item :: rest, untold => by
    rw [untoldAmong?, Option.or_eq_some_iff] at untold
    rcases untold with first | ⟨_, later⟩
    · exact description_ne_empty_of_untold first
    · exact description_ne_empty_of_among rest later

theorem description_ne_empty_of_inEntries {e : Raised} : ∀ entries : List (String × Value),
    untoldInEntries? entries = some e → e.description ≠ ""
  | [], untold => by cases untold
  | (_, value) :: rest, untold => by
    rw [untoldInEntries?, Option.or_eq_some_iff] at untold
    rcases untold with first | ⟨_, later⟩
    · exact description_ne_empty_of_untold first
    · exact description_ne_empty_of_inEntries rest later

theorem description_ne_empty_of_keyed {e : Raised} : ∀ (keys : List Key) (values : List Value),
    untoldKeyed? keys values = some e → e.description ≠ ""
  | _, [], untold => by cases untold
  | keys, value :: rest, untold => by
    rw [untoldKeyed?, Option.or_eq_some_iff, Option.or_eq_some_iff] at untold
    rcases untold with (ofKey | ⟨_, first⟩) | ⟨_, later⟩
    · obtain ⟨key, _, ofKey⟩ := Option.bind_eq_some_iff.1 ofKey
      exact description_ne_empty_of_untold_key ofKey
    · exact description_ne_empty_of_untold first
    · exact description_ne_empty_of_keyed keys.tail rest later

end

theorem description_ne_empty_of_text {v : Value} {e : Raised} (untold : v.text = .error e) :
    e.description ≠ "" := by
  unfold text at untold
  split at untold
  next found =>
    cases untold
    exact description_ne_empty_of_untold found
  · cases untold

/-- Texts are asked for until one is refused. -/
theorem exists_of_mapM_text_error {values : List Value} {e : Raised}
    (untold : values.mapM text = .error e) : ∃ v ∈ values, v.text = .error e := by
  induction values with
  | nil => cases untold
  | cons v rest ih =>
    rw [List.mapM_cons] at untold
    cases first : v.text with
    | error _ =>
      rw [first] at untold
      cases untold
      exact ⟨v, by simp, first⟩
    | ok text =>
      rw [first] at untold
      cases later : rest.mapM Value.text with
      | error _ =>
        rw [later] at untold
        cases untold
        obtain ⟨other, member, refused⟩ := ih later
        exact ⟨other, .tail v member, refused⟩
      | ok texts =>
        rw [later] at untold
        cases untold

end Value
end Workflow
