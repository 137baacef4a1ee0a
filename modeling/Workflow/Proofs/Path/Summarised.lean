import Workflow.Path.Lookup
import Workflow.Proofs.Success

/-!
Paths into values and into their summaries. A summary shows the keys of objects and the first items
of lists, so it can be walked by keys and by the position 0. Such a walk goes on in the summary as
far as in the value, from each node to the summary of the next, and where it stops it stops for the
same kind of cause.
-/
namespace Workflow

/-- The kinds of errors that the causes are reported as. A property is missing of arrays too. -/
inductive ResolutionKind where
  | malformed
  | notExecuted
  | missingProperty
  | indexOutOfRange
  | primitive
  | notArray
  deriving DecidableEq, Repr

def ResolutionCause.kind : ResolutionCause → ResolutionKind
  | .malformed _ => .malformed
  | .notExecuted _ => .notExecuted
  | .missingProperty .. => .missingProperty
  | .propertyOfArray .. => .missingProperty
  | .indexOutOfRange .. => .indexOutOfRange
  | .primitive .. => .primitive
  | .notArray .. => .notArray

/-- A value of scalars, texts, foreign values, and lists and objects of such. The keys of an object
are distinct and have a text. -/
inductive Value.Ordinary : Value → Prop
  | null : Ordinary .null
  | bool (b : Bool) : Ordinary (.bool b)
  | int (n : Int) : Ordinary (.int n)
  | float (x : Double) : Ordinary (.float x)
  | str (s : String) : Ordinary (.str s)
  | foreign (object : Foreign) : Ordinary (.foreign object)
  | list {items : List Value} : (∀ item ∈ items, Ordinary item) → Ordinary (.list items)
  | dict {entries : List (String × Value)} : (∀ entry ∈ entries, Ordinary entry.2) →
    Ordinary (.dict entries)
  | keyed {keys : List Key} {values : List Value} : keys.length = values.length → keys.Nodup →
    (∀ key ∈ keys, key.untold? = none) → (∀ value ∈ values, Ordinary value) →
    Ordinary (.keyed keys values)

/-- A text is that of a key that is none. -/
def Value.Disguises (name : String) : Value → Prop
  | .keyed keys _ => ∃ key ∈ keys, key.text? = none ∧ key.display = name
  | _ => False

/-- A hop to a key or to the first position. -/
def Segment.Leading : Segment → Prop
  | .key _ => True
  | .dotted index | .bracket index => index = 0

namespace Schema

/-! ### Summaries -/

theorem exists_inferFields {entries : List (String × Value)}
    (summaries : ∀ entry ∈ entries, ∃ schema, infer entry.2 = .ok schema) :
    ∃ fields, inferFields entries = .ok fields := by
  induction entries with
  | nil => exact ⟨[], rfl⟩
  | cons entry rest ih =>
    obtain ⟨⟨field, first⟩, others⟩ := List.forall_mem_cons.1 summaries
    obtain ⟨fields, later⟩ := ih others
    exact ⟨(entry.1, field) :: fields, by rw [inferFields, first, later]; rfl⟩

theorem exists_inferKeyed {keys : List Key} {values : List Value}
    (told : ∀ key ∈ keys, key.untold? = none)
    (summaries : ∀ value ∈ values, ∃ schema, infer value = .ok schema) :
    ∃ fields, inferKeyed keys values = .ok fields := by
  induction values generalizing keys with
  | nil => exact ⟨[], by rw [inferKeyed]⟩
  | cons value rest ih =>
    cases keys with
    | nil => exact ⟨[], by rw [inferKeyed]⟩
    | cons key keys =>
      obtain ⟨named, told⟩ := List.forall_mem_cons.1 told
      obtain ⟨⟨field, first⟩, others⟩ := List.forall_mem_cons.1 summaries
      obtain ⟨fields, later⟩ := ih told others
      exact ⟨(key.display, field) :: fields, by
        rw [inferKeyed, keyText, named, first, later]; rfl⟩

theorem exists_infer {v : Value} (ordinary : v.Ordinary) : ∃ schema, infer v = .ok schema := by
  induction ordinary with
  | @list items _ ih =>
    cases items with
    | nil => exact ⟨.emptyArray, rfl⟩
    | cons first rest =>
      obtain ⟨schema, inferred⟩ := ih first List.mem_cons_self
      exact ⟨.array schema, by rw [infer, inferArray, inferred]; rfl⟩
  | dict _ ih =>
    obtain ⟨fields, inferred⟩ := exists_inferFields ih
    exact ⟨.object fields, by rw [infer, inferred]; rfl⟩
  | keyed _ _ told _ ih =>
    obtain ⟨fields, inferred⟩ := exists_inferKeyed told ih
    exact ⟨.object (Entries.ofPairs fields), by rw [infer, inferred]; rfl⟩
  | _ => exact ⟨_, rfl⟩

mutual

/-- A summary is a value that has a summary. -/
theorem exists_infer_toValue : ∀ schema : Schema, ∃ outer, infer schema.toValue = .ok outer
  | leaf _ | emptyArray => ⟨_, rfl⟩
  | array item => by
    obtain ⟨outer, inferred⟩ := exists_infer_toValue item
    exact ⟨.array outer, by rw [toValue, infer, inferArray, inferred]; rfl⟩
  | object fields => by
    obtain ⟨outer, inferred⟩ := exists_inferFields_fieldValues fields
    exact ⟨.object outer, by rw [toValue, infer, inferred]; rfl⟩

theorem exists_inferFields_fieldValues : ∀ fields : List (String × Schema),
    ∃ outer, inferFields (fieldValues fields) = .ok outer
  | [] => ⟨_, rfl⟩
  | (key, field) :: rest => by
    obtain ⟨first, inferred⟩ := exists_infer_toValue field
    obtain ⟨others, later⟩ := exists_inferFields_fieldValues rest
    exact ⟨(key, first) :: others, by rw [fieldValues, inferFields, inferred, later]; rfl⟩

end

/-- A value has a summary, and another one is this summary. -/
def Summarised (v shown : Value) : Prop := ∃ schema, infer v = .ok schema ∧ shown = schema.toValue

/-- The summary of an object has an entry for each of its entries. -/
theorem lookup_fieldValues {entries : List (String × Value)} {fields : List (String × Schema)}
    (inferred : inferFields entries = .ok fields) (key : String) :
    Option.Rel Summarised (entries.lookup key) ((fieldValues fields).lookup key) := by
  induction entries generalizing fields with
  | nil =>
    cases inferred
    exact .none
  | cons entry rest ih =>
    obtain ⟨name, value⟩ := entry
    obtain ⟨field, first, inferred⟩ := Success.bind_ok inferred
    obtain ⟨later, others, same⟩ := Success.bind_ok inferred
    cases same
    rw [fieldValues, List.lookup_cons, List.lookup_cons]
    by_cases held : key = name
    · rw [beq_iff_eq.2 held]
      exact .some ⟨field, first, rfl⟩
    · rw [beq_eq_false_iff_ne.2 held]
      exact ih others

theorem lookup_fieldValues_map (key : String) (fields : List (String × Schema)) :
    (fieldValues fields).lookup key = (fields.lookup key).map toValue := by
  induction fields with
  | nil => rfl
  | cons field rest ih =>
    rw [fieldValues, List.lookup_cons, List.lookup_cons, ih]
    cases key == field.1 <;> rfl

theorem display_of_keyText {key : Key} {shown : String} (named : keyText key = .ok shown) :
    key.display = shown := by
  unfold keyText at named
  split at named
  · cases named
  · exact Except.ok.inj named

/-- An entry under another key makes no difference to what stands under a text. -/
theorem lookup_textEntries_of_ne {key : Key} {name : String} (other : key ≠ .text name)
    (keys : List Key) (value : Value) (values : List Value) :
    (Value.textEntries (key :: keys) (value :: values)).lookup name =
      (Value.textEntries keys values).lookup name := by
  cases key with
  | text s =>
    have ne : (name == s) = false := beq_eq_false_iff_ne.2 fun same => other (same ▸ rfl)
    rw [Value.textEntries_text, List.lookup_cons, ne]
  | _ => rw [Value.textEntries_other rfl]

/-- Nothing stands under a text that is no key. -/
theorem lookup_textEntries_of_not_mem {keys : List Key} {values : List Value} {name : String}
    (absent : .text name ∉ keys) : (Value.textEntries keys values).lookup name = none := by
  refine List.lookup_eq_none_iff.2 fun entry member => ?_
  obtain ⟨⟨key, value⟩, paired, shown⟩ := List.mem_filterMap.1 member
  cases key with
  | text s =>
    cases shown
    refine bne_iff_ne.2 ?_
    rintro rfl
    exact absent (List.of_mem_zip paired).1
  | _ => cases shown

/-- The summary of an object has the entry under a text that is the text of no other key. -/
theorem lookup_inferKeyed {keys : List Key} {values : List Value} {name : String}
    {fields : List (String × Schema)} (inferred : inferKeyed keys values = .ok fields)
    (distinct : keys.Nodup) (clear : ∀ key ∈ keys, key.text? = none → key.display ≠ name) :
    Option.Rel Summarised ((Value.textEntries keys values).lookup name)
      ((fields.reverse.lookup name).map toValue) := by
  induction values generalizing keys fields with
  | nil =>
    rw [inferKeyed] at inferred
    cases inferred
    rw [Value.textEntries, List.zip_nil_right]
    exact .none
  | cons value rest ih =>
    cases keys with
    | nil =>
      rw [inferKeyed] at inferred
      cases inferred
      exact .none
    | cons key keys =>
      obtain ⟨absent, distinct⟩ := List.nodup_cons.1 distinct
      obtain ⟨first, clear⟩ := List.forall_mem_cons.1 clear
      rw [inferKeyed] at inferred
      obtain ⟨shown, named, inferred⟩ := Success.bind_ok inferred
      obtain ⟨field, summary, inferred⟩ := Success.bind_ok inferred
      obtain ⟨later, others, same⟩ := Success.bind_ok inferred
      cases same
      have ih := ih others distinct clear
      obtain rfl := display_of_keyText named
      rw [List.reverse_cons, List.lookup_append, List.lookup_cons, List.lookup_nil]
      by_cases text : key = .text name
      · subst text
        have last : later.reverse.lookup name = none := by
          rw [lookup_textEntries_of_not_mem absent] at ih
          generalize later.reverse.lookup name = found at ih
          cases found with
          | none => rfl
          | some _ => cases ih
        have shown : name = (Key.text name).display := rfl
        rw [Value.textEntries_text, List.lookup_cons_self, last, beq_iff_eq.2 shown]
        exact .some ⟨field, summary, rfl⟩
      · have other : name ≠ key.display := by
          cases key with
          | text s => exact fun held => text (congrArg Key.text held.symm)
          | _ => exact fun held => first rfl held.symm
        rw [lookup_textEntries_of_ne text, beq_eq_false_iff_ne.2 other, Option.or_none]
        exact ih

end Schema

namespace Path
open Schema

/-! ### Hops -/

theorem blame_ne_ok {node next : Value} {cause : Schema → ResolutionCause} :
    blame node cause ≠ .ok next := by
  unfold blame
  split <;> simp

theorem ordinary_of_itemAt {items : List Value} {index : Nat} {next : Value}
    (ordinary : (Value.list items).Ordinary) (success : itemAt items index = .ok next) :
    next.Ordinary := by
  cases ordinary with
  | list ordinary =>
    unfold itemAt at success
    split at success
    next item found =>
      cases success
      exact ordinary next (List.mem_of_getElem? found)
    next => cases blame_ne_ok success

/-- A hop from an ordinary value leads to one. -/
theorem ordinary_of_hop {place : String} {node next : Value} {segment : Segment}
    (ordinary : node.Ordinary) (success : hop place node segment = .ok next) : next.Ordinary := by
  unfold hop at success
  split at success
  · exact ordinary_of_itemAt ordinary success
  · cases blame_ne_ok success
  · exact ordinary_of_itemAt ordinary success
  · cases blame_ne_ok success
  · split at success
    next value found =>
      cases success
      cases ordinary with
      | dict ordinary => exact ordinary _ (Entries.mem_of_lookup found)
    next => cases blame_ne_ok success
  · split at success
    next value found =>
      cases success
      cases ordinary with
      | keyed _ _ _ ordinary =>
        obtain ⟨⟨key, value⟩, paired, shown⟩ :=
          List.mem_filterMap.1 (Entries.mem_of_lookup found)
        cases key with
        | text s =>
          cases shown
          exact ordinary _ (List.of_mem_zip paired).2
        | _ => cases shown
    next => cases blame_ne_ok success
  · cases blame_ne_ok success
  · cases blame_ne_ok success

/-- Two walks go on, the second to the summary of where the first one goes, or both fail for the
same kind of cause. -/
inductive Alike : Except WalkError Value → Except WalkError Value → Prop
  | next {node shown : Value} : Summarised node shown → Alike (.ok node) (.ok shown)
  | failed {cause other : ResolutionCause} : cause.kind = other.kind →
    Alike (.error (.cause cause)) (.error (.cause other))

theorem blame_alike {node shown : Value} (summarised : Summarised node shown)
    {cause other : Schema → ResolutionCause} (same : ∀ s t, (cause s).kind = (other t).kind) :
    Alike (blame node cause) (blame shown other) := by
  obtain ⟨schema, inferred, rfl⟩ := summarised
  obtain ⟨outer, inferred'⟩ := exists_infer_toValue schema
  rw [blame, inferred, blame, inferred']
  exact .failed (same schema outer)

/-- A list and its summary have their first items alike. -/
theorem itemAt_alike {items : List Value} {shown : Value}
    (summarised : Summarised (.list items) shown) :
    ∃ others, shown = .list others ∧ Alike (itemAt items 0) (itemAt others 0) := by
  have whole := summarised
  obtain ⟨schema, inferred, rfl⟩ := summarised
  cases items with
  | nil =>
    cases inferred
    exact ⟨[], rfl, blame_alike whole fun _ _ => rfl⟩
  | cons first rest =>
    obtain ⟨item, first, rfl⟩ := Success.map_ok inferred
    exact ⟨[item.toValue], rfl, .next ⟨item, first, rfl⟩⟩

/-- An object and its summary have an entry alike, or have none. -/
theorem entry_alike {entries : List (String × Value)} {shown : Value}
    (summarised : Summarised (.dict entries) shown) (key : String) :
    ∃ others, shown = .dict others ∧
      Option.Rel Summarised (entries.lookup key) (others.lookup key) := by
  obtain ⟨schema, inferred, rfl⟩ := summarised
  obtain ⟨fields, listed, rfl⟩ := Success.map_ok inferred
  exact ⟨fieldValues fields, rfl, lookup_fieldValues listed key⟩

/-- An object with other keys and its summary have an entry alike under the text of none of
these. -/
theorem keyed_alike {keys : List Key} {values : List Value} {shown : Value} {name : String}
    (summarised : Summarised (.keyed keys values) shown) (distinct : keys.Nodup)
    (clear : ¬(Value.keyed keys values).Disguises name) :
    ∃ others, shown = .dict others ∧ Option.Rel Summarised
      ((Value.textEntries keys values).lookup name) (others.lookup name) := by
  obtain ⟨schema, inferred, rfl⟩ := summarised
  obtain ⟨fields, listed, rfl⟩ := Success.map_ok inferred
  refine ⟨_, rfl, ?_⟩
  rw [lookup_fieldValues_map, Entries.lookup_ofPairs]
  exact lookup_inferKeyed listed distinct fun key member other same =>
    clear ⟨key, member, other, same⟩

theorem hop_alike {node shown : Value} {segment : Segment} (ordinary : node.Ordinary)
    (summarised : Summarised node shown) (leading : segment.Leading)
    (clear : ¬node.Disguises segment.text) (place : String) :
    Alike (hop place node segment) (hop place shown segment) := by
  cases node with
  | list items =>
    obtain ⟨others, rfl, first⟩ := itemAt_alike summarised
    cases segment with
    | key name => exact blame_alike summarised fun _ _ => rfl
    | dotted index =>
      obtain rfl : index = 0 := leading
      exact first
    | bracket index =>
      obtain rfl : index = 0 := leading
      exact first
  | dict entries =>
    obtain ⟨others, rfl, found⟩ := entry_alike summarised segment.text
    cases segment with
    | bracket index => exact blame_alike summarised fun _ _ => rfl
    | key name | dotted index =>
      simp only [hop]
      generalize entries.lookup (Segment.text _) = here at found ⊢
      generalize others.lookup (Segment.text _) = there at found ⊢
      cases found with
      | none => exact blame_alike summarised fun _ _ => rfl
      | some same => exact .next same
  | keyed keys values =>
    have distinct : keys.Nodup := by
      cases ordinary with
      | keyed _ distinct _ _ => exact distinct
    obtain ⟨others, rfl, found⟩ := keyed_alike summarised distinct clear
    cases segment with
    | bracket index => exact blame_alike summarised fun _ _ => rfl
    | key name | dotted index =>
      simp only [hop]
      generalize (Value.textEntries keys values).lookup (Segment.text _) = here at found ⊢
      generalize others.lookup (Segment.text _) = there at found ⊢
      cases found with
      | none => exact blame_alike summarised fun _ _ => rfl
      | some same => exact .next same
  | tuple items => cases ordinary
  | unreadable message => cases ordinary
  | _ =>
    have whole := summarised
    obtain ⟨schema, inferred, rfl⟩ := summarised
    cases inferred
    cases segment <;> exact blame_alike whole fun _ _ => rfl

/-! ### Walks -/

/-- A walk by some segments gets to a node behind the first of them, and fails there at the next. -/
def Stops (place : String) (start : Value) (segments front : List Segment)
    (cause : ResolutionCause) : Prop :=
  ∃ node segment rest, segments = front ++ segment :: rest ∧ walk place start front = .ok node ∧
    hop (spell ⟨place, front⟩) node segment = .error (.cause cause)

theorem Stops.next {place : String} {start next : Value} {segment : Segment}
    {segments front : List Segment} {cause : ResolutionCause}
    (success : hop place start segment = .ok next)
    (stops : Stops (place ++ hopText segment) next segments front cause) :
    Stops place start (segment :: segments) (segment :: front) cause := by
  obtain ⟨node, last, rest, rfl, reached, failed⟩ := stops
  refine ⟨node, last, rest, rfl, ?_, failed⟩
  rw [walk, success]
  exact reached

/-- A walk that stops fails for this cause. -/
theorem Stops.walk_eq {place : String} {start : Value} {segments front : List Segment}
    {cause : ResolutionCause} (stops : Stops place start segments front cause) :
    walk place start segments = .error (.cause cause) := by
  obtain ⟨node, segment, rest, rfl, reached, failed⟩ := stops
  induction front generalizing place start with
  | nil =>
    cases reached
    rw [List.nil_append, walk]
    exact congrArg (· >>= fun next => walk (place ++ hopText segment) next rest) failed
  | cons first front ih =>
    obtain ⟨next, success, reached⟩ := Success.bind_ok reached
    rw [List.cons_append, walk, success]
    exact ih reached failed

/-- No hop of a walk goes by the text of a key that is none, of the object that it is made from. -/
def Clear (place : String) (node : Value) : List Segment → Prop
  | [] => True
  | segment :: rest => ¬node.Disguises segment.text ∧
    ∀ next, hop place node segment = .ok next → Clear (place ++ hopText segment) next rest

theorem walk_alike {start shown : Value} {segments : List Segment} {place : String}
    (ordinary : start.Ordinary) (summarised : Summarised start shown)
    (leading : ∀ segment ∈ segments, segment.Leading) (clear : Clear place start segments) :
    (∃ node other, walk place start segments = .ok node ∧ walk place shown segments = .ok other ∧
      Summarised node other) ∨
    ∃ front cause other, Stops place start segments front cause ∧
      Stops place shown segments front other ∧ cause.kind = other.kind := by
  induction segments generalizing start shown place with
  | nil => exact .inl ⟨start, shown, rfl, rfl, summarised⟩
  | cons segment rest ih =>
    obtain ⟨first, others⟩ := List.forall_mem_cons.1 leading
    obtain ⟨here, beyond⟩ := clear
    have alike := hop_alike ordinary summarised first here place
    generalize success : hop place start segment = here at alike
    generalize success' : hop place shown segment = there at alike
    cases alike with
    | failed same =>
      exact .inr ⟨[], _, _, ⟨start, segment, rest, rfl, rfl, success⟩,
        ⟨shown, segment, rest, rfl, rfl, success'⟩, same⟩
    | next same =>
      rcases ih (ordinary_of_hop ordinary success) same others (beyond _ success) with
        ⟨node, other, reached, reached', same⟩ | ⟨front, cause, other, stops, stops', same⟩
      · refine .inl ⟨node, other, ?_, ?_, same⟩
        · rw [walk, success]
          exact reached
        · rw [walk, success']
          exact reached'
      · exact .inr ⟨segment :: front, cause, other, stops.next success, stops'.next success', same⟩

/-- Walks by some segments, one in a value and one in its summary, end alike: both reach a node, the
second walk the summary of the first one's, or both fail at the same segment for the same kind of
cause. -/
structure EndAlike (place : String) (start shown : Value) (segments : List Segment) : Prop where
  succeed : (∃ node, walk place start segments = .ok node) ↔
    ∃ other, walk place shown segments = .ok other
  reach : ∀ node, walk place start segments = .ok node →
    ∃ schema, infer node = .ok schema ∧ walk place shown segments = .ok schema.toValue
  fail : ∀ e, walk place start segments = .error e → ∃ front cause other,
    e = .cause cause ∧ Stops place start segments front cause ∧
      walk place shown segments = .error (.cause other) ∧ Stops place shown segments front other ∧
      cause.kind = other.kind

theorem endAlike_of_reached {place : String} {start shown node other : Value}
    {segments : List Segment} (reached : walk place start segments = .ok node)
    (reached' : walk place shown segments = .ok other) (summarised : Summarised node other) :
    EndAlike place start shown segments where
  succeed := ⟨fun _ => ⟨other, reached'⟩, fun _ => ⟨node, reached⟩⟩
  reach found success := by
    obtain ⟨schema, inferred, rfl⟩ := summarised
    rw [reached] at success
    cases success
    exact ⟨schema, inferred, reached'⟩
  fail e failed := by
    rw [reached] at failed
    cases failed

theorem endAlike_of_stops {place : String} {start shown : Value} {segments front : List Segment}
    {cause other : ResolutionCause} (stops : Stops place start segments front cause)
    (stops' : Stops place shown segments front other) (same : cause.kind = other.kind) :
    EndAlike place start shown segments where
  succeed := by simp [stops.walk_eq, stops'.walk_eq]
  reach node success := by
    rw [stops.walk_eq] at success
    cases success
  fail e failed := by
    rw [stops.walk_eq] at failed
    cases failed
    exact ⟨front, cause, other, rfl, stops, stops'.walk_eq, stops', same⟩

/-- The summary of a value tells which paths of keys and first positions can be read in it, as far
as these do not go by the text of a key that is none. -/
theorem summary_tells_paths (v : Value) (ordinary : v.Ordinary) :
    ∃ schema, infer v = .ok schema ∧ ∀ (place : String) (segments : List Segment),
      (∀ segment ∈ segments, segment.Leading) → Clear place v segments →
        EndAlike place v schema.toValue segments := by
  obtain ⟨schema, inferred⟩ := exists_infer ordinary
  refine ⟨schema, inferred, fun place segments leading clear => ?_⟩
  have summarised : Summarised v schema.toValue := ⟨schema, inferred, rfl⟩
  rcases walk_alike ordinary summarised leading clear with
    ⟨node, other, reached, reached', same⟩ | ⟨front, cause, other, stops, stops', same⟩
  · exact endAlike_of_reached reached reached' same
  · exact endAlike_of_stops stops stops' same

/-- An object in a list, with a foreign value and a key that is no text inside, and a key that is a
digit. -/
theorem summary_tells_paths_into_list :
    let lock : Value := .foreign ⟨"Lock", .ok "lock", .ok true, none⟩
    let v : Value := .dict [("items", .list [.keyed [.text "lock", .null] [lock, .null], .null]),
      ("0", .list [])]
    v.Ordinary ∧ ∃ schema, infer v = .ok schema ∧
      EndAlike "a" v schema.toValue [.key "items", .bracket 0, .key "lock"] ∧
      EndAlike "a" v schema.toValue [.dotted 0, .dotted 0] := by
  intro lock v
  have ordinary : v.Ordinary := by
    refine .dict ?_
    simp only [List.forall_mem_cons, List.not_mem_nil, false_imp_iff, implies_true, and_true]
    refine ⟨.list ?_, .list nofun⟩
    simp only [List.forall_mem_cons, List.not_mem_nil, false_imp_iff, implies_true, and_true]
    refine ⟨.keyed rfl (by decide) (by decide) ?_, .null⟩
    simp only [List.forall_mem_cons, List.not_mem_nil, false_imp_iff, implies_true, and_true]
    exact ⟨.foreign _, .null⟩
  have listed : Clear "a" v [.key "items", .bracket 0, .key "lock"] := by
    refine ⟨id, ?_⟩
    rintro _ ⟨⟩
    refine ⟨id, ?_⟩
    rintro _ ⟨⟩
    refine ⟨?_, fun _ _ => trivial⟩
    simp [Value.Disguises, Key.text?, Key.display, Segment.text]
  have digit : Clear "a" v [.dotted 0, .dotted 0] := by
    refine ⟨id, ?_⟩
    rintro _ ⟨⟩
    exact ⟨id, fun _ _ => trivial⟩
  obtain ⟨schema, inferred, alike⟩ := summary_tells_paths v ordinary
  exact ⟨ordinary, schema, inferred, alike "a" _ (by simp [Segment.Leading]) listed,
    alike "a" _ (by simp [Segment.Leading]) digit⟩

/-- The summary of an object with the number 0 as its key can be read under the text of this key,
the object itself cannot. -/
theorem summary_shows_number_as_text :
    let v : Value := .keyed [.int 0] [.str "a"]
    v.Ordinary ∧ infer v = .ok (.object [("0", .leaf "string")]) ∧
      walk "d" (Schema.object [("0", .leaf "string")]).toValue [.dotted 0] = .ok (.str "string") ∧
      walk "d" v [.dotted 0] =
        .error (.cause (.missingProperty "0" "d" (.object [("0", .leaf "string")]))) := by
  have told : ∀ key ∈ [Key.int 0], key.untold? = none := by decide
  exact ⟨.keyed rfl (by decide) told (List.forall_mem_singleton.2 (.str "a")), rfl, rfl, rfl⟩

end Path
end Workflow
