import Workflow.Proofs.Path.Followed
import Workflow.Proofs.Template.Substituted

/-!
Fixed sequences in the outputs. Summaries, texts and copies take them for lists. A hop does not: it
applies to lists only, so a path into a fixed sequence fails where the path into the list of the
same items may go on. Such a hop is the only thing that sets the two apart.
-/
namespace Workflow

namespace Value

/-! ### Lists for fixed sequences -/

theorem listedItems_eq_map (items : List Value) : listedItems items = items.map listed := by
  induction items with
  | nil => rfl
  | cons item rest ih => rw [listedItems, ih, List.map_cons]

theorem lookup_listedEntries (key : String) (entries : List (String × Value)) :
    (listedEntries entries).lookup key = (entries.lookup key).map listed := by
  induction entries with
  | nil => rfl
  | cons entry rest ih =>
    rw [listedEntries, List.lookup_cons, List.lookup_cons]
    cases key == entry.1 <;> simp [ih]

theorem textEntries_listed (keys : List Key) (values : List Value) :
    textEntries keys (listedItems values) = listedEntries (textEntries keys values) := by
  induction keys generalizing values with
  | nil => rfl
  | cons key keys ih =>
    cases values with
    | nil => rfl
    | cons value values =>
      rw [listedItems]
      cases key with
      | text s => rw [textEntries_text, textEntries_text, ih, listedEntries]
      | _ => rw [textEntries_other rfl, textEntries_other rfl, ih]

theorem field?_listed (key : String) (v : Value) :
    v.listed.field? key = (v.field? key).map listed := by
  cases v with
  | dict entries => exact lookup_listedEntries key entries
  | keyed keys values =>
    change (textEntries keys (listedItems values)).lookup key = _
    rw [textEntries_listed, lookup_listedEntries]
    rfl
  | _ => rfl

mutual

theorem listed_listed : ∀ v : Value, v.listed.listed = v.listed
  | null | bool _ | int _ | float _ | str _ | foreign .. | unreadable _ => rfl
  | list items => by rw [listed, listed, listedItems_listed items]
  | tuple items => by rw [listed, listed, listedItems_listed items]
  | dict entries => by rw [listed, listed, listedEntries_listed entries]
  | keyed keys values => by rw [listed, listed, listedItems_listed values]

theorem listedItems_listed : ∀ items : List Value,
    listedItems (listedItems items) = listedItems items
  | [] => rfl
  | item :: rest => by rw [listedItems, listedItems, listed_listed item, listedItems_listed rest]

theorem listedEntries_listed : ∀ entries : List (String × Value),
    listedEntries (listedEntries entries) = listedEntries entries
  | [] => rfl
  | (key, value) :: rest => by
    rw [listedEntries, listedEntries, listed_listed value, listedEntries_listed rest]

end

mutual

theorem infer_listed : ∀ v : Value, Schema.infer v.listed = Schema.infer v
  | null | bool _ | int _ | float _ | str _ | foreign .. | unreadable _ => rfl
  | list items => by rw [listed, Schema.infer, Schema.infer, inferArray_listed items]
  | tuple items => by rw [listed, Schema.infer, Schema.infer, inferArray_listed items]
  | dict entries => by rw [listed, Schema.infer, Schema.infer, inferFields_listed entries]
  | keyed keys values => by rw [listed, Schema.infer, Schema.infer, inferKeyed_listed keys values]

theorem inferArray_listed : ∀ items : List Value,
    Schema.inferArray (listedItems items) = Schema.inferArray items
  | [] => rfl
  | item :: _ => by rw [listedItems, Schema.inferArray, Schema.inferArray, infer_listed item]

theorem inferFields_listed : ∀ entries : List (String × Value),
    Schema.inferFields (listedEntries entries) = Schema.inferFields entries
  | [] => rfl
  | (key, value) :: rest => by
    rw [listedEntries, Schema.inferFields, Schema.inferFields, infer_listed value,
      inferFields_listed rest]

theorem inferKeyed_listed : ∀ (keys : List Key) (values : List Value),
    Schema.inferKeyed keys (listedItems values) = Schema.inferKeyed keys values
  | _, [] => rfl
  | [], _ :: _ => rfl
  | key :: keys, value :: rest => by
    rw [listedItems, Schema.inferKeyed, Schema.inferKeyed, infer_listed value,
      inferKeyed_listed keys rest]

end

mutual

theorem copyError?_listed : ∀ v : Value, v.listed.copyError? = v.copyError?
  | null | bool _ | int _ | float _ | str _ | foreign .. | unreadable _ => rfl
  | list items => by rw [listed, copyError?, copyError?, copyErrorInItems?_listed items]
  | tuple items => by rw [listed, copyError?, copyError?, copyErrorInItems?_listed items]
  | dict entries => by rw [listed, copyError?, copyError?, copyErrorInEntries?_listed entries]
  | keyed keys values => by rw [listed, copyError?, copyError?, copyErrorInItems?_listed values]

theorem copyErrorInItems?_listed : ∀ items : List Value,
    copyErrorInItems? (listedItems items) = copyErrorInItems? items
  | [] => rfl
  | item :: rest => by
    rw [listedItems, copyErrorInItems?, copyErrorInItems?, copyError?_listed item,
      copyErrorInItems?_listed rest]

theorem copyErrorInEntries?_listed : ∀ entries : List (String × Value),
    copyErrorInEntries? (listedEntries entries) = copyErrorInEntries? entries
  | [] => rfl
  | (key, value) :: rest => by
    rw [listedEntries, copyErrorInEntries?, copyErrorInEntries?, copyError?_listed value,
      copyErrorInEntries?_listed rest]

end

mutual

theorem chars_listed (style : Json.Style) : ∀ v : Value,
    Json.chars style v.listed = Json.chars style v
  | null | bool _ | int _ | float _ | str _ | foreign .. | unreadable _ => rfl
  | list items => by rw [listed, Json.chars, Json.chars, itemChars_listed style items]
  | tuple items => by rw [listed, Json.chars, Json.chars, itemChars_listed style items]
  | dict entries => by rw [listed, Json.chars, Json.chars, entryChars_listed style entries]
  | keyed keys values => by rw [listed, Json.chars, Json.chars, jsonTexts_listed style values]

theorem jsonTexts_listed (style : Json.Style) : ∀ values : List Value,
    Json.texts style (listedItems values) = Json.texts style values
  | [] => rfl
  | value :: rest => by
    rw [listedItems, Json.texts, Json.texts, chars_listed style value, jsonTexts_listed style rest]

theorem itemChars_listed (style : Json.Style) : ∀ items : List Value,
    Json.itemChars style (listedItems items) = Json.itemChars style items
  | [] => rfl
  | [item] => chars_listed style item
  | item :: next :: rest => by
    have later := itemChars_listed style (next :: rest)
    have first (item next : Value) (rest : List Value) :
        Json.itemChars style (item :: next :: rest) =
          Json.chars style item ++ style.itemSeparator ++ Json.itemChars style (next :: rest) := rfl
    rw [listedItems] at later ⊢
    rw [listedItems, first, first, ← later, chars_listed style item]

theorem entryChars_listed (style : Json.Style) : ∀ entries : List (String × Value),
    Json.entryChars style (listedEntries entries) = Json.entryChars style entries
  | [] => rfl
  | [(key, value)] => by
    rw [listedEntries, listedEntries, Json.entryChars, Json.entryChars, chars_listed style value]
  | (key, value) :: (other, value') :: rest => by
    have later := entryChars_listed style ((other, value') :: rest)
    have first (value value' : Value) (rest : List (String × Value)) :
        Json.entryChars style ((key, value) :: (other, value') :: rest) =
          Json.stringText style.asciiOnly key ++ style.keySeparator ++ Json.chars style value ++
            style.itemSeparator ++ Json.entryChars style ((other, value') :: rest) := rfl
    rw [listedEntries] at later ⊢
    rw [listedEntries, first, first, ← later, chars_listed style value]

end

mutual

theorem unwritable?_listed (strict : Bool) : ∀ v : Value,
    Json.unwritable? strict v.listed = Json.unwritable? strict v
  | null | bool _ | int _ | float _ | str _ | foreign .. | unreadable _ => rfl
  | list items => by
    rw [listed, Json.unwritable?, Json.unwritable?, unwritableAmong?_listed strict items]
  | tuple items => by
    rw [listed, Json.unwritable?, Json.unwritable?, unwritableAmong?_listed strict items]
  | dict entries => by
    rw [listed, Json.unwritable?, Json.unwritable?, unwritableInEntries?_listed strict entries]
  | keyed keys values => by
    rw [listed, Json.unwritable?, Json.unwritable?, unwritableKeyed?_listed strict keys values]

theorem unwritableAmong?_listed (strict : Bool) : ∀ items : List Value,
    Json.unwritableAmong? strict (listedItems items) = Json.unwritableAmong? strict items
  | [] => rfl
  | item :: rest => by
    rw [listedItems, Json.unwritableAmong?, Json.unwritableAmong?, unwritable?_listed strict item,
      unwritableAmong?_listed strict rest]

theorem unwritableInEntries?_listed (strict : Bool) : ∀ entries : List (String × Value),
    Json.unwritableInEntries? strict (listedEntries entries) =
      Json.unwritableInEntries? strict entries
  | [] => rfl
  | (key, value) :: rest => by
    rw [listedEntries, Json.unwritableInEntries?, Json.unwritableInEntries?,
      unwritable?_listed strict value, unwritableInEntries?_listed strict rest]

theorem unwritableKeyed?_listed (strict : Bool) : ∀ (keys : List Key) (values : List Value),
    Json.unwritableKeyed? strict keys (listedItems values) =
      Json.unwritableKeyed? strict keys values
  | _, [] => rfl
  | keys, value :: rest => by
    rw [listedItems, Json.unwritableKeyed?, Json.unwritableKeyed?, unwritable?_listed strict value,
      unwritableKeyed?_listed strict keys.tail rest]

end

theorem writeChecked_listed (strict : Bool) (style : Json.Style) (v : Value) :
    Json.writeChecked strict style v.listed = Json.writeChecked strict style v := by
  rw [Json.writeChecked, Json.writeChecked, unwritable?_listed, Json.write, Json.write,
    chars_listed]

theorem stringify_listed (v : Value) : stringify v.listed = stringify v := by
  cases v with
  | list items => exact writeChecked_listed false Json.spaced (.list items)
  | tuple items => exact writeChecked_listed false Json.spaced (.tuple items)
  | dict entries => exact writeChecked_listed false Json.spaced (.dict entries)
  | keyed keys values => exact writeChecked_listed false Json.spaced (.keyed keys values)
  | _ => rfl

end Value

/-- The outputs with lists for fixed sequences in those of some steps. -/
def Outputs.listed (chosen : String → Bool) (outputs : Outputs) : Outputs :=
  outputs.map fun entry => (entry.1, if chosen entry.1 then entry.2.listed else entry.2)

theorem Outputs.lookup_listed (chosen : String → Bool) (outputs : Outputs) (id : String) :
    (outputs.listed chosen).lookup id =
      (outputs.lookup id).map fun v => if chosen id then v.listed else v := by
  induction outputs with
  | nil => rfl
  | cons entry rest ih =>
    rw [listed, List.map_cons, List.lookup_cons, List.lookup_cons]
    cases same : id == entry.1 with
    | true => simp [beq_iff_eq.1 same]
    | false => exact ih

/-- Results that are equal up to lists for fixed sequences, or failures of the same kind. -/
def SameUpToLists (result other : Except ResolveError Value) : Prop :=
  (outcome result).map Value.listed = (outcome other).map Value.listed

namespace Path
open Value

/-! ### Paths into fixed sequences -/

/-- How a hop from a fixed sequence fails. -/
def refusal (items : List Value) (segment : Segment) : ResolveKind :=
  match Schema.infer (.tuple items), segment with
  | .error _, _ => .unreadable
  | .ok _, .bracket _ => .unresolved .notArray
  | .ok _, _ => .unresolved .primitive

/-- The lookup of an expression comes to a fixed sequence and is to take a hop from it. -/
def Meets (outputs : Outputs) (expression : String) (items : List Value) (segment : Segment) :
    Prop :=
  ∃ path start front back, Denotes expression path ∧ outputs.lookup path.step = some start ∧
    skipResult start path.segments = front ++ segment :: back ∧
    walk path.step start front = .ok (.tuple items)

theorem hop_tuple (place : String) (items : List Value) (segment : Segment) :
    ∃ e, hop place (.tuple items) segment = .error e ∧ e.kind = refusal items segment := by
  unfold refusal
  cases segment <;> simp only [hop, blame] <;> cases Schema.infer (.tuple items) <;>
    exact ⟨_, rfl, rfl⟩

theorem blame_listed (node : Value) (cause : Schema → ResolutionCause) :
    blame node.listed cause = (blame node cause).map listed := by
  unfold blame
  rw [infer_listed]
  cases Schema.infer node <;> rfl

theorem itemAt_listed (items : List Value) (index : Nat) :
    itemAt (listedItems items) index = (itemAt items index).map listed := by
  have blamed := blame_listed (.list items) (.indexOutOfRange index items.length)
  rw [listed] at blamed
  unfold itemAt
  rw [listedItems_eq_map, List.getElem?_map, List.length_map, ← listedItems_eq_map]
  cases items[index]? with
  | some item => rfl
  | none => exact blamed

/-- From everything but a fixed sequence a hop leads to the same node, and fails with the same
error. -/
theorem hop_listed (place : String) {node : Value} (segment : Segment)
    (apart : ∀ items, node ≠ .tuple items) :
    hop place node.listed segment = (hop place node segment).map listed := by
  cases node with
  | tuple items => exact absurd rfl (apart items)
  | list items =>
    cases segment with
    | key name =>
      simp only [listed, hop, listedItems_eq_map, List.length_map]
      rw [← listedItems_eq_map]
      exact blame_listed (.list items) (.propertyOfArray name place items.length)
    | dotted index => exact itemAt_listed items index
    | bracket index => exact itemAt_listed items index
  | dict entries =>
    cases segment with
    | bracket index => exact blame_listed (.dict entries) (.notArray index place)
    | key name =>
      simp only [listed, hop, lookup_listedEntries]
      cases entries.lookup (Segment.key name).text with
      | some value => rfl
      | none => exact blame_listed (.dict entries) _
    | dotted index =>
      simp only [listed, hop, lookup_listedEntries]
      cases entries.lookup (Segment.dotted index).text with
      | some value => rfl
      | none => exact blame_listed (.dict entries) _
  | keyed keys values =>
    cases segment with
    | bracket index => exact blame_listed (.keyed keys values) (.notArray index place)
    | key name =>
      simp only [listed, hop, textEntries_listed, lookup_listedEntries]
      cases (textEntries keys values).lookup (Segment.key name).text with
      | some value => rfl
      | none => exact blame_listed (.keyed keys values) _
    | dotted index =>
      simp only [listed, hop, textEntries_listed, lookup_listedEntries]
      cases (textEntries keys values).lookup (Segment.dotted index).text with
      | some value => rfl
      | none => exact blame_listed (.keyed keys values) _
  | null => cases segment <;> exact blame_listed .null _
  | bool b => cases segment <;> exact blame_listed (.bool b) _
  | int n => cases segment <;> exact blame_listed (.int n) _
  | float x => cases segment <;> exact blame_listed (.float x) _
  | str s => cases segment <;> exact blame_listed (.str s) _
  | foreign object => cases segment <;> exact blame_listed (.foreign object) _
  | unreadable message => cases segment <;> rfl

/-- A walk that takes no hop from a fixed sequence leads to the same node. -/
theorem walk_listed (place : String) (start : Value) (segments : List Segment)
    (apart : ∀ front segment back items, segments = front ++ segment :: back →
      walk place start front ≠ .ok (.tuple items)) :
    walk place start.listed segments = (walk place start segments).map listed := by
  induction segments generalizing place start with
  | nil => rfl
  | cons segment segments ih =>
    have first : ∀ items, start ≠ .tuple items := by
      rintro items rfl
      exact apart [] segment segments items rfl rfl
    rw [walk, walk, hop_listed place segment first]
    cases reached : hop place start segment with
    | error e => rfl
    | ok next =>
      refine ih (place ++ hopText segment) next fun front other back items split => ?_
      have later := apart (segment :: front) other back items (by rw [split]; rfl)
      rw [walk, reached] at later
      exact later

theorem skipResult_listed (start : Value) (segments : List Segment) :
    skipResult start.listed segments = skipResult start segments := by
  cases segments with
  | nil => rfl
  | cons segment rest =>
    cases segment with
    | key name => simp [skipResult, field?_listed]
    | dotted => rfl
    | bracket => rfl

variable {outputs : Outputs} {expression : String} (chosen : String → Bool)

/-- A lookup that comes to no fixed sequence finds the same, or fails with the same error. -/
theorem lookup_listed (unmet : ∀ items segment, ¬Meets outputs expression items segment) :
    (lookup expression (outputs.listed chosen)).map listed =
      (lookup expression outputs).map listed := by
  cases denotes : parse (Text.trim expression) with
  | error e => rw [lookup_of_refused _ denotes, lookup_of_refused _ denotes]
  | ok path =>
    have moved := outputs.lookup_listed chosen path.step
    cases stored : outputs.lookup path.step with
    | none =>
      rw [stored] at moved
      rw [lookup_of_absent denotes stored, lookup_of_absent denotes moved]
    | some start =>
      rw [stored, Option.map_some] at moved
      rw [lookup_of_stored denotes stored, lookup_of_stored denotes moved]
      cases among : chosen path.step with
      | false => rfl
      | true =>
        have same := walk_listed path.step start (skipResult start path.segments)
          fun front segment back items split reached =>
            unmet items segment ⟨path, start, front, back, denotes, stored, split, reached⟩
        simp only [if_true, skipResult_listed, same]
        cases walk path.step start (skipResult start path.segments) with
        | error e => rfl
        | ok node => exact congrArg Except.ok (listed_listed node)

theorem Meets.outcome_eq {items : List Value} {segment : Segment}
    (meets : Meets outputs expression items segment) :
    outcome (lookup expression outputs) = .error (refusal items segment) := by
  obtain ⟨path, start, front, back, denotes, stored, split, reached⟩ := meets
  rw [outcome_lookup_of_stored denotes stored, split, walk_append, reached]
  obtain ⟨e, refused, kind⟩ := hop_tuple (spell ⟨path.step, front⟩) items segment
  change (walk _ (.tuple items) (segment :: back)).mapError WalkError.kind = _
  rw [walk, refused]
  exact congrArg Except.error kind

/-- A lookup that comes to no fixed sequence fails with the same error or succeeds alike. -/
theorem lookup_listed_cases (unmet : ∀ items segment, ¬Meets outputs expression items segment) :
    (∃ e, lookup expression outputs = .error e ∧
        lookup expression (outputs.listed chosen) = .error e) ∨
      ∃ v w, lookup expression outputs = .ok v ∧ lookup expression (outputs.listed chosen) = .ok w ∧
        w.listed = v.listed := by
  have same := lookup_listed chosen unmet
  cases found : lookup expression outputs with
  | error e =>
    cases found' : lookup expression (outputs.listed chosen) with
    | error e' =>
      rw [found, found'] at same
      exact .inl ⟨e, rfl, congrArg Except.error (Except.error.inj same)⟩
    | ok w => rw [found, found'] at same; cases same
  | ok v =>
    rw [found] at same
    obtain ⟨w, found', listed⟩ := Success.map_ok same
    exact .inr ⟨v, w, rfl, found', listed⟩

theorem unmet_of_ok {v : Value} (found : lookup expression outputs = .ok v) (items : List Value)
    (segment : Segment) : ¬Meets outputs expression items segment := by
  intro meets
  have failed := meets.outcome_eq
  rw [found] at failed
  cases failed

theorem lookup_listed_of_ok {v : Value} (found : lookup expression outputs = .ok v) :
    ∃ w, lookup expression (outputs.listed chosen) = .ok w ∧ w.listed = v.listed := by
  have same := lookup_listed chosen (unmet_of_ok found)
  rw [found] at same
  obtain ⟨w, found', listed⟩ := Success.map_ok same
  exact ⟨w, found', listed⟩

/-- The first item of an array can be read exactly if the array is a list. -/
theorem first_read_iff {expression' : String} {path : Path} {v : Value} {item : Schema}
    {segment : Segment} (denotes : Denotes expression path)
    (denotes' : Denotes expression' ⟨path.step, path.segments ++ [segment]⟩)
    (first : segment = .bracket 0 ∨ segment = .dotted 0) (found : lookup expression outputs = .ok v)
    (array : Schema.infer v = .ok (.array item)) :
    (∃ w, lookup expression' outputs = .ok w) ↔ ∃ items, v = .list items := by
  cases stored : outputs.lookup path.step with
  | none =>
    rw [lookup_of_absent denotes stored] at found
    cases found
  | some start =>
    have index : ∀ name, segment ≠ .key name := by
      rcases first with rfl | rfl
      · exact bracket_ne_key 0
      · exact dotted_ne_key 0
    have reached : walk path.step start (skipResult start path.segments) = .ok v := by
      rwa [lookup_of_stored denotes stored, Success.mapError_ok_iff] at found
    have more : lookup expression' outputs =
        (walk (spell ⟨path.step, skipResult start path.segments⟩) v [segment]).mapError
          (ResolveError.ofWalk (Text.trim expression')) := by
      rw [lookup_of_stored denotes' stored, skipResult_append start path.segments [] segment index,
        walk_append, reached]
      rfl
    simp only [more, Success.mapError_ok_iff]
    cases v with
    | list items =>
      cases items with
      | nil => cases array
      | cons head rest =>
        rcases first with rfl | rfl <;> exact ⟨fun _ => ⟨_, rfl⟩, fun _ => ⟨head, rfl⟩⟩
    | tuple items =>
      obtain ⟨e, refused, _⟩ :=
        hop_tuple (spell ⟨path.step, skipResult start path.segments⟩) items segment
      constructor
      · rintro ⟨w, reached⟩
        rw [walk, refused] at reached
        cases reached
      · rintro ⟨_, ⟨⟩⟩
    | dict _ | keyed _ _ =>
      obtain ⟨fields, _, same⟩ := Success.map_ok array
      cases same
    | _ => cases array

end Path

namespace Template
open Value

/-! ### Templates over fixed sequences -/

/-- Resolution of a value stops at an expression whose lookup comes to a fixed sequence and is to
take a hop from it. -/
def Meets (outputs : Outputs) (v : Value) (items : List Value) (segment : Segment) : Prop :=
  ∃ expression, ComesTo outputs v expression ∧ Path.Meets outputs expression items segment

variable {outputs : Outputs} (chosen : String → Bool)

/-- A site at which no fixed sequence is met fails with the same error or with none. -/
theorem error?_listed {site : Site}
    (unmet : ∀ expression items segment, site.expression? = some expression →
      ¬Path.Meets outputs expression items segment) :
    site.error? (outputs.listed chosen) = site.error? outputs := by
  cases site with
  | unlistable message => rfl
  | whole expression =>
    obtain ⟨e, failed, failed'⟩ | ⟨v, w, found, found', listed⟩ :=
      Path.lookup_listed_cases chosen fun items segment => unmet _ items segment rfl
    · simp only [Site.error?, failed, failed']
    · simp only [Site.error?, found, found']
      rw [← copyError?_listed w, listed, copyError?_listed v]
  | spliced expression =>
    obtain ⟨e, failed, failed'⟩ | ⟨v, w, found, found', listed⟩ :=
      Path.lookup_listed_cases chosen fun items segment => unmet _ items segment rfl
    · simp only [Site.error?, failed, failed']
    · simp only [Site.error?, found, found']
      rw [← stringify_listed w, listed, stringify_listed v]

theorem pieceTexts_listed_of_ok {pieces : List Piece} {texts : List String}
    (success : pieceTexts outputs pieces = .ok texts) :
    pieceTexts (outputs.listed chosen) pieces = .ok texts := by
  rw [pieceTexts_ok_iff] at success ⊢
  refine success.imp fun piece text gives => ?_
  cases gives with
  | literal text => exact .literal text
  | placeholder found told =>
    obtain ⟨w, found', listed⟩ := Path.lookup_listed_of_ok chosen found
    refine .placeholder found' ?_
    rw [← stringify_listed, listed, stringify_listed, told]

theorem resolveText_listed_of_ok {text : String} {w : Value}
    (success : resolveText text outputs = .ok w) :
    ∃ w', resolveText text (outputs.listed chosen) = .ok w' ∧ w'.listed = w.listed := by
  by_cases whole : ∃ expression, Piece.ofChars text.toList = [.placeholder expression]
  · obtain ⟨expression, pieces⟩ := whole
    rw [resolveText_of_whole outputs pieces] at success
    obtain ⟨v, found, copied⟩ := Success.bind_ok success
    obtain ⟨copies, rfl⟩ := (copy_ok_iff v w).1 (Success.mapError_ok_iff.1 copied)
    obtain ⟨w', found', listed⟩ := Path.lookup_listed_of_ok chosen found
    have copies' : w'.copyError? = none := by
      rw [← copyError?_listed, listed, copyError?_listed, copies]
    refine ⟨w', ?_, listed⟩
    rw [resolveText_of_whole _ pieces, found']
    exact Success.mapError_ok_iff.2 ((copy_ok_iff w' w').2 ⟨copies', rfl⟩)
  · rw [not_exists] at whole
    rw [resolveText_of_spliced outputs whole, fill] at success
    obtain ⟨joined, filled, rfl⟩ := Success.map_ok success
    obtain ⟨texts, given, rfl⟩ := Success.map_ok filled
    refine ⟨.str (String.join texts), ?_, rfl⟩
    rw [resolveText_of_spliced _ whole, fill, pieceTexts_listed_of_ok chosen given]
    rfl

mutual

/-- A value that resolves resolves to the same with lists for fixed sequences in the outputs. -/
theorem resolve_listed_of_ok : ∀ v w : Value, resolve outputs v = .ok w →
    ∃ w', resolve (outputs.listed chosen) v = .ok w' ∧ w'.listed = w.listed
  | .null, w, success | .bool _, w, success | .int _, w, success | .float _, w, success
  | .foreign .., w, success => ⟨w, success, rfl⟩
  | .unreadable _, _, success => by cases success
  | .str text, _, success => resolveText_listed_of_ok chosen success
  | .list items, _, success => by
    obtain ⟨resolved, parts, rfl⟩ := Success.map_ok success
    obtain ⟨resolved', parts', listed⟩ := resolveItems_listed_of_ok items resolved parts
    refine ⟨.list resolved', ?_, by rw [Value.listed, Value.listed, listed]⟩
    rw [resolve, parts']
    rfl
  | .tuple items, _, success => by
    obtain ⟨resolved, parts, rfl⟩ := Success.map_ok success
    obtain ⟨resolved', parts', listed⟩ := resolveItems_listed_of_ok items resolved parts
    refine ⟨.list resolved', ?_, by rw [Value.listed, Value.listed, listed]⟩
    rw [resolve, parts']
    rfl
  | .dict entries, _, success => by
    obtain ⟨resolved, parts, rfl⟩ := Success.map_ok success
    obtain ⟨resolved', parts', listed⟩ := resolveEntries_listed_of_ok entries resolved parts
    refine ⟨.dict resolved', ?_, by rw [Value.listed, Value.listed, listed]⟩
    rw [resolve, parts']
    rfl
  | .keyed keys values, _, success => by
    obtain ⟨resolved, parts, rfl⟩ := Success.map_ok success
    obtain ⟨resolved', parts', listed⟩ := resolveItems_listed_of_ok values resolved parts
    refine ⟨.keyed keys resolved', ?_, by rw [Value.listed, Value.listed, listed]⟩
    rw [resolve, parts']
    rfl

theorem resolveItems_listed_of_ok : ∀ items resolved : List Value,
    resolveItems outputs items = .ok resolved →
    ∃ resolved', resolveItems (outputs.listed chosen) items = .ok resolved' ∧
      listedItems resolved' = listedItems resolved
  | [], _, success => ⟨[], rfl, by rw [← Except.ok.inj success]⟩
  | item :: rest, _, success => by
    obtain ⟨w, head, success⟩ := Success.bind_ok success
    obtain ⟨others, tail, same⟩ := Success.bind_ok success
    cases same
    obtain ⟨w', head', first⟩ := resolve_listed_of_ok item w head
    obtain ⟨others', tail', later⟩ := resolveItems_listed_of_ok rest others tail
    refine ⟨w' :: others', ?_, by rw [listedItems, listedItems, first, later]⟩
    rw [resolveItems, head', tail']
    rfl

theorem resolveEntries_listed_of_ok : ∀ entries resolved : List (String × Value),
    resolveEntries outputs entries = .ok resolved →
    ∃ resolved', resolveEntries (outputs.listed chosen) entries = .ok resolved' ∧
      listedEntries resolved' = listedEntries resolved
  | [], _, success => ⟨[], rfl, by rw [← Except.ok.inj success]⟩
  | (key, value) :: rest, _, success => by
    obtain ⟨w, head, success⟩ := Success.bind_ok success
    obtain ⟨others, tail, same⟩ := Success.bind_ok success
    cases same
    obtain ⟨w', head', first⟩ := resolve_listed_of_ok value w head
    obtain ⟨others', tail', later⟩ := resolveEntries_listed_of_ok rest others tail
    refine ⟨(key, w') :: others', ?_, by rw [listedEntries, listedEntries, first, later]⟩
    rw [resolveEntries, head', tail']
    rfl

end

theorem unmet_of_error?_none {site : Site} (gives : site.error? outputs = none)
    (expression : String) (items : List Value) (segment : Segment)
    (named : site.expression? = some expression) :
    ¬Path.Meets outputs expression items segment := by
  cases site with
  | unlistable message => cases named
  | whole text | spliced text =>
    cases named
    cases found : lookup (String.ofList text) outputs with
    | ok v => exact Path.unmet_of_ok found items segment
    | error e => simp [Site.error?, found] at gives

/-- Resolution that is not stopped at a fixed sequence gives the same, or fails with the same
error. -/
theorem resolve_listed {v : Value} (unmet : ∀ items segment, ¬Meets outputs v items segment) :
    (resolve (outputs.listed chosen) v).map listed = (resolve outputs v).map listed := by
  cases resolved : resolve outputs v with
  | ok w =>
    obtain ⟨w', resolved', same⟩ := resolve_listed_of_ok chosen v w resolved
    rw [resolved']
    exact congrArg Except.ok same
  | error e =>
    have first := failure?_resolve outputs v
    rw [resolved] at first
    -- The sites before the first that fails give as much as before, and this one fails as before.
    obtain ⟨before, site, after, split, failed, given⟩ :=
      List.findSome?_eq_some_iff.1 first.symm
    have same : site.error? (outputs.listed chosen) = some e := by
      rw [error?_listed chosen fun expression items segment named met =>
        unmet items segment ⟨expression, ⟨before, site, after, split, given, named⟩, met⟩]
      exact failed
    have given' : ∀ earlier ∈ before, earlier.error? (outputs.listed chosen) = none :=
      fun earlier member => by
        rw [error?_listed chosen (unmet_of_error?_none (given earlier member))]
        exact given earlier member
    have first' : Success.failure? (resolve (outputs.listed chosen) v) = some e := by
      rw [failure?_resolve]
      exact List.findSome?_eq_some_iff.2 ⟨before, site, after, split, same, given'⟩
    rw [Success.failure?_eq_some_iff.1 first']

theorem Meets.outcome_eq {v : Value} {items : List Value} {segment : Segment}
    (meets : Meets outputs v items segment) :
    outcome (resolve outputs v) = .error (Path.refusal items segment) := by
  obtain ⟨expression, comes, met⟩ := meets
  have refused := met.outcome_eq
  cases found : lookup expression outputs with
  | ok w => rw [found] at refused; cases refused
  | error e =>
    rw [found] at refused
    rw [resolve_of_comesTo outputs comes found]
    exact refused

/-! ### Reading alike -/

/-- Where nothing is met results agree in full, and where something is met they agree exactly if the
other one fails in the way in which the hop is refused. -/
theorem sameUpToLists_iff {met : List Value → Segment → Prop}
    {result other : Except ResolveError Value}
    (agree : (∀ items segment, ¬met items segment) → other.map listed = result.map listed)
    (refused : ∀ items segment, met items segment →
      outcome result = .error (Path.refusal items segment)) :
    SameUpToLists result other ↔
      ∀ items segment, met items segment →
        outcome other = .error (Path.refusal items segment) := by
  constructor
  · intro same items segment meets
    rw [SameUpToLists, refused items segment meets] at same
    cases ended : outcome other with
    | ok v => rw [ended] at same; cases same
    | error kind => rw [ended] at same; cases same; rfl
  · intro alike
    by_cases meets : ∃ items segment, met items segment
    · obtain ⟨items, segment, meets⟩ := meets
      rw [SameUpToLists, refused items segment meets, alike items segment meets]
    · simp only [not_exists] at meets
      have same := agree meets
      cases result with
      | error e =>
        cases other with
        | error e' => cases same; rfl
        | ok w => cases same
      | ok v =>
        cases other with
        | error e' => cases same
        | ok w => exact congrArg Except.ok (Except.ok.inj same).symm

/-- With lists for the fixed sequences in some outputs, summaries are the same, and lookups and
templates come to the same, the texts of the errors included, unless a hop is to be taken from a
fixed sequence. Such a hop is refused, so they come to the same exactly where the lookup with the
list fails in this way too. The first item of a value that is summarised as an array can be read
exactly where this value is a list. -/
theorem sequences_read_as_lists_iff (chosen : String → Bool) (outputs : Outputs) :
    (∀ v : Value, Schema.infer v.listed = Schema.infer v) ∧
      (∀ expression, SameUpToLists (lookup expression outputs)
          (lookup expression (outputs.listed chosen)) ↔
        ∀ items segment, Path.Meets outputs expression items segment →
          outcome (lookup expression (outputs.listed chosen)) =
            .error (Path.refusal items segment)) ∧
      (∀ v, SameUpToLists (resolve outputs v) (resolve (outputs.listed chosen) v) ↔
        ∀ items segment, Meets outputs v items segment →
          outcome (resolve (outputs.listed chosen) v) = .error (Path.refusal items segment)) ∧
      (∀ expression, (∀ items segment, ¬Path.Meets outputs expression items segment) →
        (lookup expression (outputs.listed chosen)).map listed =
          (lookup expression outputs).map listed) ∧
      (∀ v, (∀ items segment, ¬Meets outputs v items segment) →
        (resolve (outputs.listed chosen) v).map listed = (resolve outputs v).map listed) ∧
      ∀ (expression expression' : String) (path : Path) (segment : Segment) (v : Value)
        (item : Schema), Path.Denotes expression path →
        Path.Denotes expression' ⟨path.step, path.segments ++ [segment]⟩ →
        (segment = .bracket 0 ∨ segment = .dotted 0) → lookup expression outputs = .ok v →
        Schema.infer v = .ok (.array item) →
        ((∃ w, lookup expression' outputs = .ok w) ↔ ∃ items, v = .list items) :=
  ⟨infer_listed, fun _ => sameUpToLists_iff (Path.lookup_listed chosen) fun _ _ => (·.outcome_eq),
    fun _ => sameUpToLists_iff (resolve_listed chosen) fun _ _ => (·.outcome_eq),
    fun _ => Path.lookup_listed chosen, fun _ => resolve_listed chosen,
    fun _ _ _ _ _ _ denotes denotes' => Path.first_read_iff denotes denotes'⟩

/-- A fixed sequence in a list of an output, and a template for its place. -/
theorem sequences_read_as_lists_iff_nested :
    let outputs : Outputs := [("l", .list [.tuple [.null]])]
    Schema.infer (.list [.tuple [.null]]) = .ok (.array (.array (.leaf "null"))) ∧
      (∃ w, lookup "l[0]" outputs = .ok w) ∧ ¬(∃ w, lookup "l[0].0" outputs = .ok w) ∧
      SameUpToLists (resolve outputs (.str "\x7b\x7bl[0]\x7d\x7d"))
        (resolve (outputs.listed fun _ => true) (.str "\x7b\x7bl[0]\x7d\x7d")) := by
  intro outputs
  obtain ⟨_, _, alike, _, _, first⟩ := sequences_read_as_lists_iff (fun _ => true) outputs
  have outer := first "l" "l[0]" ⟨"l", []⟩ (.bracket 0) (.list [.tuple [.null]])
    (.array (.leaf "null")) rfl rfl (.inl rfl) rfl rfl
  have inner := first "l[0]" "l[0].0" ⟨"l", [.bracket 0]⟩ (.dotted 0) (.tuple [.null])
    (.leaf "null") rfl rfl (.inr rfl) rfl rfl
  refine ⟨rfl, outer.2 ⟨_, rfl⟩, fun found => ?_, (alike _).2 fun items segment meets => ?_⟩
  · obtain ⟨items, same⟩ := inner.1 found
    cases same
  · have failed := meets.outcome_eq
    cases failed

/-- The first item of a fixed sequence is not read as that of the list. -/
theorem sequence_refused :
    let outputs : Outputs := [("t", .tuple [.int 1])]
    Schema.infer (.tuple [.int 1]) = .ok (.array (.leaf "number")) ∧
      lookup "t[0]" (outputs.listed fun _ => true) = .ok (.int 1) ∧
      outcome (lookup "t[0]" outputs) = .error (.unresolved .notArray) ∧
      outcome (resolve outputs (.str "\x7b\x7bt.0\x7d\x7d")) = .error (.unresolved .primitive) ∧
      ¬SameUpToLists (lookup "t[0]" outputs) (lookup "t[0]" (outputs.listed fun _ => true)) := by
  intro outputs
  refine ⟨rfl, rfl, rfl, rfl, fun same => ?_⟩
  cases same

end Template
end Workflow
