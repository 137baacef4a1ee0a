import Workflow.Proofs.Envelope.Errors
import Workflow.Proofs.Json.Shaped

/-!
What an answer that is not taken in tells. The text of an error that it carries is never empty, and
there is something to tell about every exception that taking it in raises.
-/
namespace Workflow

theorem Double.chars_ne_nil (x : Double) : x.chars ≠ [] := by
  have finite : x.finiteChars ≠ [] := by
    unfold finiteChars
    split
    · simp
    · dsimp only
      split
      · unfold positional
        split <;> simp
      · simp [scientific, exponentText]
  unfold chars
  split
  · simp
  · dsimp only
    split
    · simp
    · split
      · simp
      · exact finite

namespace Json

theorem chars_ne_nil (style : Style) (v : Value) : chars style v ≠ [] := by
  cases v with
  | bool b => cases b <;> simp [chars]
  | int n => cases n <;> simp [chars, toString, Int.repr]
  | float x =>
    unfold chars floatText
    split
    · simp
    · split
      · split <;> simp
      · exact x.chars_ne_nil
  | _ => simp [chars, stringText]

/-! What writing a value raises can be told. -/

theorem description_ne_empty_of_unnameable {key : Key} {e : Raised}
    (unnameable : unnameable? key = some e) : e.description ≠ "" := by
  unfold unnameable? at unnameable
  split at unnameable
  · cases unnameable
    simp [Raised.description, toString, String.append_eq_empty_iff]
  · exact Value.description_ne_empty_of_untold_key unnameable

mutual

theorem description_ne_empty_of_unwritable {strict : Bool} {e : Raised} : ∀ {v : Value},
    unwritable? strict v = some e → e.description ≠ ""
  | .int n, unwritten => by
    rw [unwritable?] at unwritten
    split at unwritten
    · cases unwritten
      exact Value.description_overlong
    · cases unwritten
  | .list items, unwritten | .tuple items, unwritten =>
    description_ne_empty_of_unwritableAmong items unwritten
  | .dict entries, unwritten => description_ne_empty_of_unwritableInEntries entries unwritten
  | .keyed keys values, unwritten => description_ne_empty_of_unwritableKeyed keys values unwritten
  | .foreign object, unwritten => by
    rw [unwritable?] at unwritten
    split at unwritten
    · cases unwritten
      simp [Raised.description, toString, String.append_eq_empty_iff]
    · split at unwritten
      next told _ =>
        cases unwritten
        exact told.2
      · cases unwritten
  | .null, unwritten | .bool _, unwritten | .float _, unwritten | .str _, unwritten
  | .unreadable _, unwritten => by cases unwritten

theorem description_ne_empty_of_unwritableAmong {strict : Bool} {e : Raised} :
    ∀ items : List Value, unwritableAmong? strict items = some e → e.description ≠ ""
  | [], unwritten => by cases unwritten
  | item :: rest, unwritten => by
    rw [unwritableAmong?, Option.or_eq_some_iff] at unwritten
    rcases unwritten with first | ⟨_, later⟩
    · exact description_ne_empty_of_unwritable first
    · exact description_ne_empty_of_unwritableAmong rest later

theorem description_ne_empty_of_unwritableInEntries {strict : Bool} {e : Raised} :
    ∀ entries : List (String × Value), unwritableInEntries? strict entries = some e →
      e.description ≠ ""
  | [], unwritten => by cases unwritten
  | (_, value) :: rest, unwritten => by
    rw [unwritableInEntries?, Option.or_eq_some_iff] at unwritten
    rcases unwritten with first | ⟨_, later⟩
    · exact description_ne_empty_of_unwritable first
    · exact description_ne_empty_of_unwritableInEntries rest later

theorem description_ne_empty_of_unwritableKeyed {strict : Bool} {e : Raised} :
    ∀ (keys : List Key) (values : List Value), unwritableKeyed? strict keys values = some e →
      e.description ≠ ""
  | _, [], unwritten => by cases unwritten
  | keys, value :: rest, unwritten => by
    rw [unwritableKeyed?, Option.or_eq_some_iff, Option.or_eq_some_iff] at unwritten
    rcases unwritten with (ofKey | ⟨_, first⟩) | ⟨_, later⟩
    · obtain ⟨key, _, ofKey⟩ := Option.bind_eq_some_iff.1 ofKey
      exact description_ne_empty_of_unnameable ofKey
    · exact description_ne_empty_of_unwritable first
    · exact description_ne_empty_of_unwritableKeyed keys.tail rest later

end

theorem description_ne_empty_of_unwritableWithin {room : Nat} {v : Value} {e : Raised}
    (unwritten : unwritableWithin? room v = some e) : e.description ≠ "" := by
  unfold unwritableWithin? at unwritten
  split at unwritten
  · cases unwritten
    simp [Raised.description]
  · exact description_ne_empty_of_unwritable unwritten

theorem description_tooDeep (container : String) : (tooDeep container).description ≠ "" := by
  simp [tooDeep, Raised.description, toString, String.append_eq_empty_iff]

theorem description_ne_empty_of_overflow {room : Nat} {text : String} {e : Raised}
    (deep : overflow? room text = some e) : e.description ≠ "" := by
  unfold overflow? at deep
  generalize readPart text.toList = cs at deep
  generalize false = quoted at deep
  -- A bracket without room ends the walk along the text; anything else goes on with the rest.
  fun_induction overflowAmong? room quoted cs with
  | case1 => cases deep
  | case5 | case7 =>
    cases deep
    exact description_tooDeep _
  | _ => rename_i ih; exact ih deep

end Json

namespace Value

/-- In a container every value but a foreign one has a text. -/
theorem quoted_ne_empty {v : Value} (shaped : v.isJson = true) : v.quoted ≠ "" := by
  cases v with
  | bool b => cases b <;> simp [quoted]
  | int n => cases n <;> simp [quoted, toString, Int.repr]
  | float x => simp [quoted, Double.text, x.chars_ne_nil]
  | str s => simp [quoted, Text.quoted, Text.quotedChars]
  | list items => simp [quoted, String.append_eq_empty_iff]
  | dict entries => simp [quoted, String.append_eq_empty_iff]
  | null => simp [quoted]
  | tuple items => cases shaped
  | keyed keys values => cases shaped
  | foreign object => cases shaped
  | unreadable message => cases shaped

/-- What counts as present has a text that is not empty. -/
theorem display_ne_empty {v : Value} (shaped : v.isJson = true) (present : v.truthy = true) :
    v.display ≠ "" := by
  cases v with
  | str s => simpa [display, truthy] using present
  | _ => exact quoted_ne_empty shaped

end Value

namespace Envelope

theorem truthy_of_firstTruthy? {keys : List String} {v found : Value}
    (first : firstTruthy? keys v = some found) :
    found.truthy = true ∧ ∃ key, v.field? key = some found := by
  obtain ⟨key, _, entry⟩ := List.exists_of_findSome?_eq_some first
  obtain ⟨held, present⟩ := Option.filter_eq_some_iff.1 entry
  exact ⟨present, key, held⟩

theorem isJson_parseOrText (text : String) : (Json.parseOrText text).isJson = true := by
  unfold Json.parseOrText
  cases parsed : Json.parse text with
  | ok v => exact Json.isJson_of_parse (fun _ _ => rfl) parsed
  | error cause => rfl

/-- An error that an answer carries has a text. -/
theorem error?_ne_empty {v : Value} {message : String} (found : error? v = some message) :
    message ≠ "" := by
  cases v with
  | str text =>
    obtain ⟨detail, marked, rfl⟩ := Option.map_eq_some_iff.1 found
    have prefixed := (errorDetail?_isSome_iff text).1 (by rw [marked]; rfl)
    have present : text ≠ "" := by
      rintro rfl
      exact absurd prefixed (by decide)
    dsimp only
    split
    · cases first : firstTruthy? ["error", "message"] (Json.parseOrText detail) with
      | none => exact present
      | some inner =>
        obtain ⟨truthy, key, held⟩ := truthy_of_firstTruthy? first
        exact Value.display_ne_empty (Value.isJson_of_field (isJson_parseOrText detail) held) truthy
    · exact present
  | dict _ | keyed _ _ =>
    obtain ⟨inner, first, rfl⟩ := Option.map_eq_some_iff.1 found
    obtain ⟨truthy, _⟩ := truthy_of_firstTruthy? first
    cases inner with
    | str text => simpa [Value.truthy] using truthy
    | _ => simp [Json.write, Json.chars_ne_nil]
  | _ => cases found

theorem description_ne_empty_of_untested {v : Value} {e : Raised}
    (untested : v.untested? = some e) : e.description ≠ "" := by
  cases v with
  | foreign object =>
    rw [Value.untested?] at untested
    split at untested
    next told _ =>
      cases untested
      exact told.2
    · cases untested
  | _ => cases untested

theorem description_ne_empty_of_undecodable {room : Nat} {v : Value} {e : Raised}
    (undecoded : undecodable? room v = some e) : e.description ≠ "" := by
  cases v with
  | str text => exact Json.description_ne_empty_of_overflow undecoded
  | _ => cases undecoded

theorem description_ne_empty_of_untellable {room : Nat} {error : Value} {e : Raised}
    (untold : untellable? room error = some e) : e.description ≠ "" := by
  rcases Option.or_eq_some_iff.1 untold with untested | ⟨_, unwritten⟩
  · exact description_ne_empty_of_untested untested
  · split at unwritten
    · cases unwritten
    · split at unwritten
      · exact Json.description_ne_empty_of_unwritableWithin unwritten
      · cases unwritten

theorem description_ne_empty_of_errorFault {room : Nat} {v : Value} {e : Raised}
    (fault : errorFault? room v = some e) : e.description ≠ "" := by
  unfold errorFault? at fault
  split at fault
  · obtain ⟨detail, _, deep⟩ := Option.bind_eq_some_iff.1 fault
    exact Json.description_ne_empty_of_overflow deep
  · obtain ⟨error, _, untold⟩ := Option.bind_eq_some_iff.1 fault
    exact description_ne_empty_of_untellable untold

theorem description_ne_empty_of_unwrapFault {room : Nat} {raw : Value} {e : Raised}
    (fault : unwrapFault? room raw = some e) : e.description ≠ "" := by
  rcases Option.or_eq_some_iff.1 fault with outside | ⟨_, inside⟩
  · exact description_ne_empty_of_undecodable outside
  · rcases Option.or_eq_some_iff.1 inside with result | ⟨_, data⟩
    · obtain ⟨inner, _, undecoded⟩ := Option.bind_eq_some_iff.1 result
      exact description_ne_empty_of_undecodable undecoded
    · obtain ⟨inner, _, untested⟩ := Option.bind_eq_some_iff.1 data
      exact description_ne_empty_of_untested untested

/-- What taking an answer in raises can be told. -/
theorem description_ne_empty_of_fault {room : Nat} {raw : Value} {e : Raised}
    (fault : fault? room raw = some e) : e.description ≠ "" := by
  rcases Option.or_eq_some_iff.1 fault with outside | ⟨_, inside⟩
  · exact description_ne_empty_of_errorFault outside
  · split at inside
    · cases inside
    · rcases Option.or_eq_some_iff.1 inside with unwrapped | ⟨_, content⟩
      · exact description_ne_empty_of_unwrapFault unwrapped
      · exact description_ne_empty_of_errorFault content

theorem read_error_ne_empty {raw : Value} {message : String} (found : read raw = .error message) :
    message ≠ "" := by
  unfold read at found
  split at found
  next outside =>
    cases found
    exact error?_ne_empty outside
  · split at found
    next inside =>
      cases found
      exact error?_ne_empty inside
    · cases found

end Envelope

end Workflow
