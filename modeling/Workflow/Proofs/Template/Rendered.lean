import Workflow.Envelope
import Workflow.Proofs.Json.ReadBack
import Workflow.Proofs.Json.Shaped
import Workflow.Template

/-!
Texts that values are shown by. A list or an object inside a longer text and the summary of a value
are written as JSON that reads back, so both are told by their texts, and a summary stays on one
line.
-/
namespace Workflow
namespace Json

/-! ### Characters of written values -/

theorem printable_integerChars (negative : Bool) (size : Nat) :
    Printable (integerChars negative size) := by
  have digits : Printable (Nat.toDigits 10 size) := fun c member => by
    have digit := Text.toNat_of_isDigit (Nat.isDigit_of_mem_toDigits (by decide) (by decide) member)
    omega
  have sign : Printable (if negative then ['-'] else []) := by
    cases negative <;> simp [Printable]
  exact printable_append sign digits

variable {style : Style}

theorem Style.Legible.printable (legible : style.Legible) :
    Printable style.itemSeparator ∧ Printable style.keySeparator := by
  have blanks {c : Char} {blanks : List Char} (mark : 0x20 ≤ c.toNat)
      (blank : ∀ d ∈ blanks, d = ' ') : Printable (c :: blanks) :=
    printable_cons mark fun d member => by rw [blank d member]; decide
  obtain ⟨behind, separator, blank⟩ := legible.items
  obtain ⟨behind', separator', blank'⟩ := legible.keys
  rw [separator, separator']
  exact ⟨blanks (by decide) blank, blanks (by decide) blank'⟩

theorem printable_itemChars (legible : style.Legible) {found : List Value}
    (each : ∀ item ∈ found, Printable (chars style item)) : Printable (itemChars style found) := by
  induction found with
  | nil => simp [Printable, itemChars]
  | cons first more ih =>
    obtain ⟨here, later⟩ := List.forall_mem_cons.1 each
    cases more with
    | nil => rwa [itemChars]
    | cons second more =>
      rw [itemChars_cons_cons]
      exact printable_append here (printable_append legible.printable.1 (ih later))

theorem printable_entryText (legible : style.Legible) {entry : String × Value}
    (inner : Printable (chars style entry.2)) : Printable (entryText style entry) := by
  rw [entryText, legible.unescaped]
  exact printable_append (printable_stringText entry.1)
    (printable_append legible.printable.2 inner)

theorem printable_entryChars (legible : style.Legible) {entries : List (String × Value)}
    (each : ∀ entry ∈ entries, Printable (chars style entry.2)) :
    Printable (entryChars style entries) := by
  induction entries with
  | nil => simp [Printable, entryChars]
  | cons first more ih =>
    obtain ⟨here, later⟩ := List.forall_mem_cons.1 each
    cases more with
    | nil =>
      rw [entryChars_singleton]
      exact printable_entryText legible here
    | cons second more =>
      rw [entryChars_cons_cons]
      exact printable_append (printable_entryText legible here)
        (printable_append legible.printable.1 (ih later))

/-- No control character is in what is written. -/
theorem printable_chars (legible : style.Legible) {v : Value} (plain : v.Legible) :
    Printable (chars style v) := by
  induction plain with
  | null => simp [Printable, chars]
  | bool b => cases b <;> simp [Printable, chars]
  | @int n _ =>
    rw [chars, toList_toString]
    exact printable_integerChars _ _
  | str s =>
    rw [chars, legible.unescaped]
    exact printable_stringText s
  | list _ ih =>
    rw [chars]
    exact printable_append (printable_cons (by decide) (printable_itemChars legible ih))
      (by simp [Printable])
  | dict _ _ ih =>
    rw [chars]
    exact printable_append (printable_cons (by decide) (printable_entryChars legible ih))
      (by simp [Printable])

end Json

namespace Schema

/-! ### Summaries as values -/

mutual

/-- A summary is told by its value. -/
theorem toValue_injective : ∀ s t : Schema, s.toValue = t.toValue → s = t
  | leaf kind, t, same => by
    cases t <;> simp_all [toValue]
  | emptyArray, t, same => by
    cases t <;> simp_all [toValue]
  | array item, t, same => by
    cases t with
    | array other =>
      simp only [toValue, Value.list.injEq, List.cons.injEq, and_true] at same
      rw [toValue_injective item other same]
    | _ => simp [toValue] at same
  | object fields, t, same => by
    cases t with
    | object others =>
      simp only [toValue, Value.dict.injEq] at same
      rw [fieldValues_injective fields others same]
    | _ => simp [toValue] at same

theorem fieldValues_injective : ∀ fields others : List (String × Schema),
    fieldValues fields = fieldValues others → fields = others
  | [], others, same => by
    cases others with
    | nil => rfl
    | cons other others => simp [fieldValues] at same
  | (key, field) :: rest, others, same => by
    cases others with
    | nil => simp [fieldValues] at same
    | cons other others =>
      simp only [fieldValues, List.cons.injEq, Prod.mk.injEq] at same
      obtain ⟨⟨key', field'⟩, later⟩ := same
      rw [fieldValues_injective rest others later, key', toValue_injective field other.2 field']

end

theorem exists_legible_fields {entries : List (String × Value)}
    (each : ∀ entry ∈ entries, ∃ schema, infer entry.2 = .ok schema ∧ schema.toValue.Legible) :
    ∃ fields, inferFields entries = .ok fields ∧
      Entries.keys (fieldValues fields) = Entries.keys entries ∧
      ∀ field ∈ fieldValues fields, field.2.Legible := by
  induction entries with
  | nil => exact ⟨[], rfl, rfl, by simp [fieldValues]⟩
  | cons entry rest ih =>
    obtain ⟨⟨schema, first, plain⟩, others⟩ := List.forall_mem_cons.1 each
    obtain ⟨fields, later, keys, plains⟩ := ih others
    refine ⟨(entry.1, schema) :: fields, by rw [inferFields, first, later]; rfl, ?_, ?_⟩
    · exact congrArg (entry.1 :: ·) keys
    · exact List.forall_mem_cons.2 ⟨plain, plains⟩

/-- A legible value has a summary, which is a legible value, too. -/
theorem exists_legible {v : Value} (plain : v.Legible) :
    ∃ schema, infer v = .ok schema ∧ schema.toValue.Legible := by
  induction plain with
  | @list items _ ih =>
    cases items with
    | nil => exact ⟨.emptyArray, rfl, .list nofun⟩
    | cons first rest =>
      obtain ⟨schema, inferred, plain⟩ := ih first List.mem_cons_self
      refine ⟨.array schema, by rw [infer, inferArray, inferred]; rfl, .list ?_⟩
      exact List.forall_mem_singleton.2 plain
  | dict distinct _ ih =>
    obtain ⟨fields, inferred, keys, plain⟩ := exists_legible_fields ih
    exact ⟨.object fields, by rw [infer, inferred]; rfl, .dict (keys ▸ distinct) plain⟩
  | _ => exact ⟨_, rfl, .str _⟩

end Schema
/-! ### Texts -/

/-- A list or an object. -/
def Value.IsContainer (v : Value) : Prop :=
  (∃ items, v = .list items) ∨ ∃ entries, v = .dict entries

/-- Inside a longer text, lists and objects are written as JSON. -/
theorem stringify_of_container {v : Value} (container : v.IsContainer) :
    stringify v = Json.writeChecked false Json.spaced v := by
  obtain ⟨items, rfl⟩ | ⟨entries, rfl⟩ := container <;> rfl

theorem Value.Legible.isWritable {v : Value} (plain : v.Legible) : v.isWritable = true := by
  induction plain with
  | null | bool _ | str _ => rfl
  | int short => simpa [Value.isWritable, Value.isJsonOf, Text.isOverlong] using short
  | list _ ih => exact (Value.isJsonItems_iff _).2 ih
  | dict _ _ ih => exact (Value.isJsonEntries_iff _).2 ih

/-- A legible value can be written. -/
theorem Json.writeChecked_of_legible {v : Value} (plain : v.Legible) (strict : Bool)
    (style : Style) :
    writeChecked strict style v = .ok (write style v) :=
  writeChecked_of_isWritable strict style plain.isWritable

theorem decoded_of_container {v : Value} (container : v.IsContainer) : Envelope.decoded v = v := by
  obtain ⟨items, rfl⟩ | ⟨entries, rfl⟩ := container <;> rfl

theorem parseOrText_write {style : Json.Style} (legible : style.Legible) {v : Value}
    (plain : v.Legible) : Json.parseOrText (Json.write style v) = v := by
  rw [Json.parseOrText, Json.parse_write legible plain]

/-- The summary of a legible value is told by its text. -/
theorem Schema.text_injective {s t : Schema} (plain : s.toValue.Legible)
    (plain' : t.toValue.Legible) (same : s.text = t.text) : s = t := by
  refine toValue_injective s t ?_
  rw [← parseOrText_write Json.legible_compact plain,
    ← parseOrText_write Json.legible_compact plain']
  exact congrArg Json.parseOrText same

/-- What is written for values reads back. The text of a list or an object inside a longer text is
decoded to this value, so it has the same content as an answer. The summary of a value is written on
one line and decoded to this summary; so values with the same summary text have the same summary. -/
theorem rendered_reads_back :
    (∀ v : Value, v.Legible → v.IsContainer → ∃ text, stringify v = .ok text ∧
      Json.parseOrText text = v ∧ Envelope.unwrap (.str text) = Envelope.unwrap v) ∧
    (∀ v : Value, v.Legible → ∃ schema text, Schema.infer v = .ok schema ∧
      describe v = .ok text ∧ '\n' ∉ text.toList ∧ '\r' ∉ text.toList ∧
      Json.parseOrText text = schema.toValue) ∧
    ∀ v w : Value, v.Legible → w.Legible → describe v = describe w →
      Schema.infer v = Schema.infer w := by
  refine ⟨fun v plain container => ?_, fun v plain => ?_, fun v w plain plain' same => ?_⟩
  · have shown : stringify v = .ok (Json.write Json.spaced v) := by
      rw [stringify_of_container container, Json.writeChecked_of_legible plain]
    have back : Json.parseOrText (Json.write Json.spaced v) = v :=
      parseOrText_write Json.legible_spaced plain
    have decoded : Envelope.decoded (.str (Json.write Json.spaced v)) = Envelope.decoded v :=
      back.trans (decoded_of_container container).symm
    exact ⟨_, shown, back, by rw [Envelope.unwrap, decoded, Envelope.unwrap]⟩
  · obtain ⟨schema, inferred, shown⟩ := Schema.exists_legible plain
    have printable := Json.printable_chars Json.legible_compact shown
    refine ⟨schema, schema.text, inferred, by rw [describe, inferred]; rfl, ?_, ?_,
      parseOrText_write Json.legible_compact shown⟩
    · intro member
      rw [Schema.text, Json.write, String.toList_ofList] at member
      exact absurd (printable _ member) (by decide)
    · intro member
      rw [Schema.text, Json.write, String.toList_ofList] at member
      exact absurd (printable _ member) (by decide)
  · obtain ⟨schema, inferred, shown⟩ := Schema.exists_legible plain
    obtain ⟨schema', inferred', shown'⟩ := Schema.exists_legible plain'
    rw [describe, describe, inferred, inferred'] at same
    rw [inferred, inferred', Schema.text_injective shown shown' (Except.ok.inj same)]

/-- A key with a quote, a backslash and a line feed, an empty key, empty containers, a negative
integer, and characters that are escaped or stand as they are. The first items alone decide the
summary. -/
theorem rendered_reads_back_escaped :
    let key := "\"\\\n"
    let v : Value := .dict [(key, .list [.int (-10), .dict [], .list []]), ("", .str "\x00é\x7f")]
    let w : Value := .dict [(key, .list [.int 3]), ("", .str "")]
    v.Legible ∧ v.IsContainer ∧
      (∃ text, stringify v = .ok text ∧ Envelope.unwrap (.str text) = Envelope.unwrap v) ∧
      (∃ text, describe v = .ok text ∧ '\n' ∉ text.toList ∧
        Json.parseOrText text = .dict [(key, .list [.str "number"]), ("", .str "string")]) ∧
      w.Legible ∧ describe v = describe w ∧ Schema.infer v = Schema.infer w := by
  intro key v w
  have small : (Nat.toDigits 10 10).length ≤ Text.numeralLimit := by decide
  have three : (Nat.toDigits 10 3).length ≤ Text.numeralLimit := by decide
  have plain : v.Legible := by
    refine .dict (by decide) ?_
    simp only [List.forall_mem_cons, List.not_mem_nil, false_imp_iff, implies_true, and_true]
    refine ⟨.list ?_, .str _⟩
    simp only [List.forall_mem_cons, List.not_mem_nil, false_imp_iff, implies_true, and_true]
    exact ⟨.int small, .dict .nil (List.forall_mem_nil _), .list (List.forall_mem_nil _)⟩
  have plain' : w.Legible := by
    refine .dict (by decide) ?_
    simp only [List.forall_mem_cons, List.not_mem_nil, false_imp_iff, implies_true, and_true]
    exact ⟨.list (List.forall_mem_singleton.2 (.int three)), .str _⟩
  have container : v.IsContainer := .inr ⟨_, rfl⟩
  obtain ⟨strings, summaries, told⟩ := rendered_reads_back
  obtain ⟨schema, text, inferred, described, feedless, _, back⟩ := summaries v plain
  cases inferred
  obtain ⟨shown, rendered, _, same⟩ := strings v plain container
  exact ⟨plain, container, ⟨shown, rendered, same⟩, ⟨text, described, feedless, back⟩,
    plain', rfl, told v w plain plain' rfl⟩

end Workflow
