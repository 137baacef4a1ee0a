import Workflow.Json.Reader
import Workflow.Json.Writer
import Workflow.Proofs.Success
import Workflow.Proofs.Text.Numeral

/-!
Values that JSON text can stand for: null, booleans, numbers, texts, and lists and objects of such.
The reader gives no other values and no integer of too many digits, and the strict writer takes all
values without one. A text that nests deeper than there is room for is not read.
-/
namespace Workflow

mutual

/-- Whether a value has a JSON form of its own, at every depth, its integers being of some kind. -/
def Value.isJsonOf (kind : Int → Bool) : Value → Bool
  | .null => true
  | .bool _ => true
  | .int n => kind n
  | .float _ => true
  | .str _ => true
  | .list items => isJsonItemsOf kind items
  | .dict entries => isJsonEntriesOf kind entries
  | .tuple _ => false
  | .keyed .. => false
  | .foreign _ => false
  | .unreadable _ => false

def Value.isJsonItemsOf (kind : Int → Bool) : List Value → Bool
  | [] => true
  | item :: rest => item.isJsonOf kind && isJsonItemsOf kind rest

def Value.isJsonEntriesOf (kind : Int → Bool) : List (String × Value) → Bool
  | [] => true
  | (_, value) :: rest => value.isJsonOf kind && isJsonEntriesOf kind rest

end

namespace Value

/-- Whether a value has a JSON form of its own, whatever its integers are. -/
abbrev isJson (v : Value) : Bool := v.isJsonOf fun _ => true

abbrev isJsonItems (items : List Value) : Bool := isJsonItemsOf (fun _ => true) items

/-- Whether a value has a JSON form that can be written. -/
abbrev isWritable (v : Value) : Bool := v.isJsonOf (!Text.isOverlong ·)

variable {kind : Int → Bool}

theorem isJsonEntries_iff (entries : List (String × Value)) :
    isJsonEntriesOf kind entries = true ↔ ∀ entry ∈ entries, entry.2.isJsonOf kind = true := by
  induction entries with
  | nil => simp [isJsonEntriesOf]
  | cons entry rest ih =>
    obtain ⟨key, value⟩ := entry
    simp [isJsonEntriesOf, ih]

theorem isJsonItems_iff (items : List Value) :
    isJsonItemsOf kind items = true ↔ ∀ item ∈ items, item.isJsonOf kind = true := by
  induction items with
  | nil => simp [isJsonItemsOf]
  | cons item rest ih => simp [isJsonItemsOf, ih]

theorem isJson_of_lookup {entries : List (String × Value)} {key : String} {value : Value}
    (shaped : isJsonEntriesOf kind entries = true) (found : entries.lookup key = some value) :
    value.isJsonOf kind = true :=
  (isJsonEntries_iff entries).1 shaped _ (Entries.mem_of_lookup found)

theorem isJson_of_field {v : Value} {key : String} {value : Value} (shaped : v.isJsonOf kind = true)
    (found : v.field? key = some value) : value.isJsonOf kind = true := by
  cases v with
  | dict entries => exact isJson_of_lookup shaped found
  | keyed keys values => cases shaped
  | unreadable message => cases shaped
  | _ => cases found

theorem isJsonEntries_put {entries : List (String × Value)} {value : Value} (key : String)
    (shaped : isJsonEntriesOf kind entries = true) (new : value.isJsonOf kind = true) :
    isJsonEntriesOf kind (Entries.put key value entries) = true := by
  induction entries with
  | nil => simp [Entries.put, isJsonEntriesOf, new]
  | cons entry rest ih =>
    obtain ⟨k, v⟩ := entry
    simp only [isJsonEntriesOf, Bool.and_eq_true] at shaped
    by_cases held : k = key
    · simp [Entries.put, held, isJsonEntriesOf, new, shaped.2]
    · simp [Entries.put, held, isJsonEntriesOf, shaped.1, ih shaped.2]

end Value

namespace Json

/-! ### Writing -/

mutual

theorem unwritable?_of_isWritable (strict : Bool) : ∀ v : Value, v.isWritable = true →
    unwritable? strict v = none
  | .null, _ | .bool _, _ | .float _, _ | .str _, _ => rfl
  | .int n, shaped => if_neg (by simpa [Value.isWritable, Value.isJsonOf] using shaped)
  | .list items, shaped => unwritableAmong?_of_isWritable strict items shaped
  | .dict entries, shaped => unwritableInEntries?_of_isWritable strict entries shaped

theorem unwritableAmong?_of_isWritable (strict : Bool) : ∀ items : List Value,
    Value.isJsonItemsOf (!Text.isOverlong ·) items = true → unwritableAmong? strict items = none
  | [], _ => rfl
  | item :: rest, shaped => by
    simp only [Value.isJsonItemsOf, Bool.and_eq_true] at shaped
    rw [unwritableAmong?, unwritable?_of_isWritable strict item shaped.1,
      unwritableAmong?_of_isWritable strict rest shaped.2]
    rfl

theorem unwritableInEntries?_of_isWritable (strict : Bool) : ∀ entries : List (String × Value),
    Value.isJsonEntriesOf (!Text.isOverlong ·) entries = true →
      unwritableInEntries? strict entries = none
  | [], _ => rfl
  | (key, value) :: rest, shaped => by
    simp only [Value.isJsonEntriesOf, Bool.and_eq_true] at shaped
    rw [unwritableInEntries?, unwritable?_of_isWritable strict value shaped.1,
      unwritableInEntries?_of_isWritable strict rest shaped.2]
    rfl

end

/-- The strict writer refuses no value of JSON whose integers have a text. -/
theorem writeChecked_of_isWritable {v : Value} (strict : Bool) (style : Style)
    (shaped : v.isWritable = true) : writeChecked strict style v = .ok (write style v) := by
  rw [writeChecked, unwritable?_of_isWritable strict v shaped]

/-! ### Reading -/

/-- Integers that have a text are of some kind. -/
def TakesShort (kind : Int → Bool) : Prop := ∀ n, Text.isOverlong n = false → kind n = true

variable {kind : Int → Bool}

/-- What a numeral within the limit writes has a text. -/
theorem isOverlong_of_numeral {digits : List Char} (present : digits ≠ [])
    (short : digits.length ≤ Text.numeralLimit) (negative : Bool) :
    Text.isOverlong
      (if negative then -(Text.numeralValue digits : Int) else Text.numeralValue digits) =
        false := by
  have size : (if negative then -(Text.numeralValue digits : Int)
      else Text.numeralValue digits).natAbs = Text.numeralValue digits := by
    cases negative <;> simp
  rw [Text.isOverlong, size, decide_eq_false_iff_not, Nat.not_lt]
  exact (Text.length_toDigits_numeralValue_le present).trans short

theorem isJson_of_number (takes : TakesShort kind) {cs rest : List Char} {v : Value}
    (read : number cs = .ok (v, rest)) : v.isJsonOf kind = true := by
  unfold number at read
  extract_lets negative unsigned whole after at read
  split at read
  · cases read
  next present =>
    split at read
    · split at read
      · cases read
      next short =>
        simp only [Except.ok.injEq, Prod.mk.injEq] at read
        rw [← read.1]
        exact takes _ (isOverlong_of_numeral (by simpa using present) (Nat.not_lt.1 short) _)
    · simp only [Except.ok.injEq, Prod.mk.injEq] at read
      rw [← read.1]
      rfl

theorem isJson_of_scalar (takes : TakesShort kind) {cs rest : List Char} {v : Value}
    (read : scalar cs = .ok (v, rest)) : v.isJsonOf kind = true := by
  unfold scalar at read
  split at read
  next word value found =>
    simp only [Except.ok.injEq, Prod.mk.injEq] at read
    rw [← read.1]
    have member := List.mem_of_find?_eq_some found
    simp only [words, List.mem_cons, Prod.mk.injEq, List.not_mem_nil, or_false] at member
    rcases member with ⟨_, rfl⟩ | ⟨_, rfl⟩ | ⟨_, rfl⟩ | ⟨_, rfl⟩ | ⟨_, rfl⟩ | ⟨_, rfl⟩ <;> rfl
  · exact isJson_of_number takes read

/-- What the reader gives with some fuel: values, items and members of JSON alone. -/
structure ReadsJson (kind : Int → Bool) (fuel : Nat) : Prop where
  ofValue : ∀ {cs v rest}, value fuel cs = .ok (v, rest) → v.isJsonOf kind = true
  ofItems : ∀ {cs found rest}, items fuel cs = .ok (found, rest) →
    Value.isJsonItemsOf kind found = true
  ofMembers : ∀ {before cs found rest}, members fuel before cs = .ok (found, rest) →
    Value.isJsonEntriesOf kind before = true → Value.isJsonEntriesOf kind found = true

theorem isJson_of_value (takes : TakesShort kind) {fuel : Nat} (inner : ReadsJson kind fuel)
    {cs rest : List Char} {v : Value} (read : value (fuel + 1) cs = .ok (v, rest)) :
    v.isJsonOf kind = true := by
  cases cs with
  | nil => simp [value] at read
  | cons c cs =>
    simp only [value] at read
    split at read
    · obtain ⟨⟨body, after⟩, _, read⟩ := Success.bind_ok read
      simp only [pure, Except.pure, Except.ok.injEq, Prod.mk.injEq] at read
      rw [← read.1]
      rfl
    · split at read
      · split at read
        · cases read
          rfl
        · obtain ⟨⟨found, after⟩, inside, read⟩ := Success.bind_ok read
          simp only [pure, Except.pure, Except.ok.injEq, Prod.mk.injEq] at read
          rw [← read.1]
          exact inner.ofItems inside
      · split at read
        · split at read
          · cases read
            rfl
          · obtain ⟨⟨found, after⟩, inside, read⟩ := Success.bind_ok read
            simp only [pure, Except.pure, Except.ok.injEq, Prod.mk.injEq] at read
            rw [← read.1]
            exact inner.ofMembers inside rfl
        · exact isJson_of_scalar takes read

theorem isJsonItems_of_items {fuel : Nat} (inner : ReadsJson kind fuel) {cs rest : List Char}
    {found : List Value} (read : items (fuel + 1) cs = .ok (found, rest)) :
    Value.isJsonItemsOf kind found = true := by
  simp only [items] at read
  obtain ⟨⟨first, after⟩, head, read⟩ := Success.bind_ok read
  have first_json := inner.ofValue head
  simp only at read
  split at read
  · cases read
    simp [Value.isJsonItemsOf, first_json]
  · obtain ⟨⟨others, final⟩, tail, read⟩ := Success.bind_ok read
    cases read
    simp [Value.isJsonItemsOf, first_json, inner.ofItems tail]
  · cases read

theorem isJsonEntries_of_members {fuel : Nat} (inner : ReadsJson kind fuel) {cs rest : List Char}
    {before found : List (String × Value)}
    (read : members (fuel + 1) before cs = .ok (found, rest))
    (shaped : Value.isJsonEntriesOf kind before = true) :
    Value.isJsonEntriesOf kind found = true := by
  simp only [members] at read
  split at read
  · obtain ⟨⟨name, after⟩, _, read⟩ := Success.bind_ok read
    simp only at read
    split at read
    · obtain ⟨⟨first, final⟩, head, read⟩ := Success.bind_ok read
      have put_json := Value.isJsonEntries_put (String.ofList name) shaped
        (inner.ofValue head)
      simp only at read
      split at read
      · cases read
        exact put_json
      · exact inner.ofMembers read put_json
      · cases read
    · cases read
  · cases read

theorem readsJson (takes : TakesShort kind) (fuel : Nat) : ReadsJson kind fuel := by
  induction fuel with
  | zero =>
    refine ⟨?_, ?_, ?_⟩
    · intro cs v rest read
      simp [value] at read
    · intro cs found rest read
      simp [items] at read
    · intro before cs found rest read
      simp [members] at read
  | succ fuel inner =>
    exact ⟨isJson_of_value takes inner, isJsonItems_of_items inner, isJsonEntries_of_members inner⟩

/-- The reader gives values of JSON alone, whose integers have a text. -/
theorem isJson_of_parse (takes : TakesShort kind) {text : String} {v : Value}
    (read : parse text = .ok v) : v.isJsonOf kind = true := by
  have found := Success.mapError_ok_iff.1 read
  unfold document at found
  split at found
  · cases found
  · obtain ⟨⟨inside, rest⟩, head, found⟩ := Success.bind_ok found
    simp only at found
    split at found
    · cases found
      exact (readsJson takes _).ofValue head
    · cases found

/-! ### Nesting -/

/-- The reader goes down to the end of a text of opening brackets. -/
theorem value_brackets (n fuel : Nat) (enough : 2 * n < fuel) :
    value fuel (List.replicate n '[') = .error (.fault .expectedValue []) := by
  have noSpace (n : Nat) : skipSpace (List.replicate n '[') = List.replicate n '[' := by
    cases n <;> simp [skipSpace, isJsonSpace, List.replicate_succ]
  induction n generalizing fuel with
  | zero =>
    obtain ⟨fuel, rfl⟩ := Nat.exists_eq_add_one.2 enough
    rfl
  | succ n ih =>
    obtain ⟨fuel, rfl⟩ : ∃ rest, fuel = rest + 2 := ⟨fuel - 2, by omega⟩
    have inside : items (fuel + 1) (List.replicate n '[') = .error (.fault .expectedValue []) := by
      rw [items, ih fuel (by omega)]
      rfl
    rw [List.replicate_succ, value]
    simp only [noSpace]
    cases n <;> simp_all [List.replicate_succ, bind, Except.bind]

theorem overflowAmong?_brackets (n room : Nat) (deep : room < n) :
    overflowAmong? room false (List.replicate n '[') = some (tooDeep "array") := by
  induction n generalizing room with
  | zero => omega
  | succ n ih =>
    rw [List.replicate_succ]
    cases room with
    | zero => rfl
    | succ room => exact ih room (by omega)

/-- A text of more opening brackets than there is room for is not read to its end. -/
theorem overflow?_brackets (n room : Nat) (deep : room < n) :
    overflow? room (String.ofList (List.replicate n '[')) = some (tooDeep "array") := by
  have stopped : document (List.replicate n '[') = .error (.fault .expectedValue []) := by
    obtain ⟨n, rfl⟩ := Nat.exists_eq_add_one.2 (Nat.zero_lt_of_lt deep)
    have mark : ((List.replicate (n + 1) '[').head? == some (Char.ofNat 0xFEFF)) = false := by
      simp [List.replicate_succ]
    have noSpace : skipSpace (List.replicate (n + 1) '[') = List.replicate (n + 1) '[' := by
      simp [skipSpace, isJsonSpace, List.replicate_succ]
    rw [document, mark, noSpace, value_brackets _ _ (by simp)]
    rfl
  have whole : readPart (List.replicate n '[') = List.replicate n '[' := by
    simp [readPart, stopped, Stop.rest]
  rw [overflow?, String.toList_ofList, whole, overflowAmong?_brackets n room deep]

end Json
end Workflow
