import Workflow.Proofs.Path.Spelling
import Workflow.Proofs.Template.Substituted

/-!
Addresses of the nodes of a value. The keys of objects and the positions of lists on the way to a
node, written behind the step that stored the value, name this node.
-/
namespace Workflow

/-- A node is reached from a value by keys of objects and positions of lists. -/
inductive Value.Reaches : Value → List Segment → Value → Prop
  | here (node : Value) : Reaches node [] node
  | key {entries : List (String × Value)} {name : String} {value node : Value}
      {segments : List Segment} :
    entries.lookup name = some value → Reaches value segments node →
    Reaches (.dict entries) (.key name :: segments) node
  | dotted {items : List Value} {index : Nat} {item node : Value} {segments : List Segment} :
    items[index]? = some item → Reaches item segments node →
    Reaches (.list items) (.dotted index :: segments) node
  | bracket {items : List Value} {index : Nat} {item node : Value} {segments : List Segment} :
    items[index]? = some item → Reaches item segments node →
    Reaches (.list items) (.bracket index :: segments) node

namespace Path

/-- A name that can stand in an expression: no dots, brackets and braces in it, and no blanks at its
ends. -/
structure IsLabel (name : String) : Prop extends IsName name where
  braceless : ∀ c ∈ name.toList, Piece.isBrace c = false
  front : ∀ c ∈ name.toList.head?, Text.isBlank c = false
  back : ∀ c ∈ name.toList.getLast?, Text.isBlank c = false

/-- A hop that can stand in an expression. A key of digits alone is the decimal form of a number,
and no number has more digits than are read. -/
def Addressable : Segment → Prop
  | .key name => IsLabel name ∧ (name.toList.all Text.isDigit = true →
    ∃ index, name = toString index ∧ (Nat.toDigits 10 index).length ≤ Text.numeralLimit)
  | .dotted index | .bracket index => (Nat.toDigits 10 index).length ≤ Text.numeralLimit

/-- An expression for a path in double braces. -/
def placeholderText (path : Path) : String := "\x7b\x7b" ++ spell path ++ "\x7d\x7d"

/-! ### Texts of addresses -/

theorem Addressable.legible {segment : Segment} (addressable : Addressable segment) :
    Legible segment := by
  cases segment with
  | key name =>
    refine ⟨addressable.1.toIsName, fun digits => ?_⟩
    obtain ⟨index, rfl, short⟩ := addressable.2 digits
    rw [Nat.toString_eq_repr, Nat.toList_repr]
    exact Text.isNumeral_toDigits short
  | dotted index => exact addressable
  | bracket index => exact addressable

/-- Decimal digits are neither blanks nor braces. -/
theorem unbroken_of_mem_toDigits {index : Nat} {c : Char} (member : c ∈ Nat.toDigits 10 index) :
    Text.isBlank c = false ∧ Piece.isBrace c = false := by
  have digit : c.isDigit = true := Nat.isDigit_of_mem_toDigits (by decide) (by decide) member
  obtain ⟨first, last⟩ := Text.toNat_of_isDigit digit
  constructor
  · simp only [Text.isBlank, Text.isSpace]
    grind
  · have opening : c ≠ '{' := by
      rintro rfl
      cases digit
    have closing : c ≠ '}' := by
      rintro rfl
      cases digit
    simp [Piece.isBrace, opening, closing]

theorem Addressable.braceless {segment : Segment} (addressable : Addressable segment) :
    Piece.Plain segment.chars := by
  intro c member
  cases segment with
  | key name =>
    rw [Segment.chars_key] at member
    rcases List.mem_cons.1 member with rfl | member
    · rfl
    · exact addressable.1.braceless c member
  | dotted index =>
    rw [Segment.chars_dotted] at member
    rcases List.mem_cons.1 member with rfl | member
    · rfl
    · exact (unbroken_of_mem_toDigits member).2
  | bracket index =>
    rw [Segment.chars_bracket] at member
    simp only [indexText, List.mem_cons, List.mem_append, List.not_mem_nil, or_false] at member
    rcases member with rfl | member | rfl
    · rfl
    · exact (unbroken_of_mem_toDigits member).2
    · rfl

/-- The last character of a hop is there and is no blank. -/
theorem Addressable.last {segment : Segment} (addressable : Addressable segment) :
    segment.chars ≠ [] ∧ ∀ c ∈ segment.chars.getLast?, Text.isBlank c = false := by
  cases segment with
  | key name =>
    rw [Segment.chars_key]
    refine ⟨List.cons_ne_nil _ _, fun c last => addressable.1.back c ?_⟩
    rwa [← List.singleton_append, List.getLast?_append_of_ne_nil _
      (by simpa using addressable.1.present)] at last
  | dotted index =>
    rw [Segment.chars_dotted]
    refine ⟨List.cons_ne_nil _ _, fun c last => ?_⟩
    rw [← List.singleton_append, List.getLast?_append_of_ne_nil _ Nat.toDigits_ne_nil] at last
    exact (unbroken_of_mem_toDigits (List.mem_of_getLast? last)).1
  | bracket index =>
    rw [Segment.chars_bracket, indexText, ← List.cons_append]
    refine ⟨by simp, fun c last => ?_⟩
    rw [List.getLast?_concat] at last
    cases last
    rfl

variable {step : String} {segments : List Segment}

theorem spell_braceless (named : IsLabel step)
    (addressable : ∀ segment ∈ segments, Addressable segment) :
    Piece.Plain (spell ⟨step, segments⟩).toList := by
  intro c member
  rw [toList_spell, List.mem_append] at member
  rcases member with member | member
  · exact named.braceless c member
  · obtain ⟨segment, among, member⟩ := List.mem_flatMap.1 member
    exact (addressable segment among).braceless c member

/-- No blank comes to stand at the end by a hop. -/
theorem unblank_append {front : List Char} (addressable : ∀ segment ∈ segments, Addressable segment)
    (unblank : ∀ c ∈ front.getLast?, Text.isBlank c = false) :
    ∀ c ∈ (front ++ segments.flatMap Segment.chars).getLast?, Text.isBlank c = false := by
  induction segments generalizing front with
  | nil => simpa using unblank
  | cons segment segments ih =>
    obtain ⟨first, others⟩ := List.forall_mem_cons.1 addressable
    obtain ⟨present, last⟩ := first.last
    rw [List.flatMap_cons, ← List.append_assoc]
    refine ih others ?_
    rwa [List.getLast?_append_of_ne_nil _ present]

/-- No blanks are around an address. -/
theorem trim_spell (named : IsLabel step)
    (addressable : ∀ segment ∈ segments, Addressable segment) :
    Text.trim (spell ⟨step, segments⟩) = spell ⟨step, segments⟩ := by
  have present : step.toList ≠ [] := by simpa using named.present
  rw [Text.trim, Text.strip_eq_self, String.ofList_toList]
  · rw [toList_spell, List.head?_append_of_ne_nil _ present]
    exact named.front
  · rw [toList_spell]
    exact unblank_append addressable named.back

/-! ### Walks -/

theorem hop_key {entries : List (String × Value)} {name : String} {value : Value}
    (addressable : Addressable (.key name)) (found : entries.lookup name = some value)
    (place : String) : hop place (.dict entries) (Segment.key name).read = .ok value := by
  by_cases digits : name.toList.all Text.isDigit = true
  · obtain ⟨index, rfl, _⟩ := addressable.2 digits
    have number : Text.numeralValue (toString index).toList = index := by
      rw [Nat.toString_eq_repr, Nat.toList_repr, Text.numeralValue_toDigits]
    rw [Segment.read, if_pos digits, number]
    simp only [hop, Segment.text, found]
  · rw [Segment.read, if_neg digits]
    simp only [hop, Segment.text, found]

theorem walk_of_reaches {value node : Value} (reaches : value.Reaches segments node)
    (addressable : ∀ segment ∈ segments, Addressable segment) (place : String) :
    walk place value (segments.map Segment.read) = .ok node := by
  induction reaches generalizing place with
  | here node => rfl
  | key found _ ih =>
    obtain ⟨first, others⟩ := List.forall_mem_cons.1 addressable
    rw [List.map_cons, walk, hop_key first found]
    exact ih others _
  | dotted found _ ih =>
    obtain ⟨_, others⟩ := List.forall_mem_cons.1 addressable
    simp only [List.map_cons, Segment.read, walk, hop, itemAt, found]
    exact ih others _
  | bracket found _ ih =>
    obtain ⟨_, others⟩ := List.forall_mem_cons.1 addressable
    simp only [List.map_cons, Segment.read, walk, hop, itemAt, found]
    exact ih others _

/-- A key that leads on is not taken for an envelope. -/
theorem skipResult_of_reaches {value node : Value} (reaches : value.Reaches segments node) :
    skipResult value (segments.map Segment.read) = segments.map Segment.read := by
  cases reaches with
  | here => rfl
  | @key entries name value _ segments found later =>
    rw [List.map_cons, Segment.read]
    by_cases digits : name.toList.all Text.isDigit = true
    · rw [if_pos digits]
      rfl
    · rw [if_neg digits, skipResult]
      by_cases result : name = "result"
      · subst result
        simp [Value.field?, found]
      · simp [result]
  | dotted => rfl
  | bracket => rfl

/-! ### Addresses -/

theorem lookup_spell {outputs : Outputs} {value node : Value} (named : IsLabel step)
    (addressable : ∀ segment ∈ segments, Addressable segment)
    (stored : outputs.lookup step = some value) (reaches : value.Reaches segments node) :
    lookup (spell ⟨step, segments⟩) outputs = .ok node := by
  have parsed : parse (spell ⟨step, segments⟩) = .ok ⟨step, segments.map Segment.read⟩ :=
    parse_spell named.toIsName fun segment among => (addressable segment among).legible
  unfold lookup
  simp only [trim_spell named addressable, parsed, stored, skipResult_of_reaches reaches,
    walk_of_reaches reaches addressable]

/-- Every node of an output is found at its address, and the address in double braces resolves to
it, as far as it can be copied. -/
theorem every_node_addressed {outputs : Outputs} {value node : Value}
    (stored : outputs.lookup step = some value) (reaches : value.Reaches segments node)
    (named : IsLabel step) (addressable : ∀ segment ∈ segments, Addressable segment) :
    lookup (spell ⟨step, segments⟩) outputs = .ok node ∧
      Template.resolve outputs (.str (placeholderText ⟨step, segments⟩)) =
        node.copy.mapError ResolveError.ofCopy := by
  have found := lookup_spell named addressable stored reaches
  refine ⟨found, ?_⟩
  have text : (placeholderText ⟨step, segments⟩).toList =
      Piece.braced (spell ⟨step, segments⟩).toList := by
    simp [placeholderText, Piece.braced]
  have pieces := ((Piece.decomposes_placeholder_iff ..).2
    ⟨spell_braceless named addressable, text⟩).ofChars_eq
  rw [Template.resolve, Template.resolveText_of_whole outputs pieces, String.ofList_toList, found]
  rfl

/-- A key that is a number, behind a position behind a key. -/
theorem every_node_addressed_numeric_key :
    lookup "s.k[1].7" [("s", .dict [("k", .list [.bool true, .dict [("7", .null)]])])] =
        .ok .null ∧
      Template.resolve [("s", .dict [("k", .list [.bool true, .dict [("7", .null)]])])]
        (.str "\x7b\x7bs.k[1].7\x7d\x7d") = .ok .null := by
  have label (c : Char) (plain : c ≠ '.' ∧ isBracket c = false)
      (unbroken : Piece.isBrace c = false ∧ Text.isBlank c = false) :
      IsLabel (String.singleton c) :=
    ⟨⟨by simp, by simpa using plain⟩, by simpa using unbroken.1, by simpa using unbroken.2,
      by simpa using unbroken.2⟩
  have addressable : ∀ segment ∈ [Segment.key "k", .bracket 1, .key "7"], Addressable segment := by
    intro segment member
    obtain rfl | rfl | rfl : segment = .key "k" ∨ segment = .bracket 1 ∨ segment = .key "7" := by
      simpa using member
    · exact ⟨label 'k' (by decide) (by decide), fun digits => absurd digits (by decide)⟩
    · exact Nat.le_of_ble_eq_true rfl
    · exact ⟨label '7' (by decide) (by decide), fun _ => ⟨7, rfl, by decide⟩⟩
  have text : spell ⟨"s", [.key "k", .bracket 1, .key "7"]⟩ = "s.k[1].7" := rfl
  have braced : placeholderText ⟨"s", [.key "k", .bracket 1, .key "7"]⟩ =
      "\x7b\x7bs.k[1].7\x7d\x7d" := rfl
  rw [← text, ← braced]
  exact every_node_addressed rfl (.key rfl (.bracket rfl (.key rfl (.here .null))))
    (label 's' (by decide) (by decide)) addressable

/-- A value that refuses to be copied is found and does not resolve. A key of digits that is no
decimal form is looked for under the number that it reads as. -/
theorem uncopyable_node_unresolved :
    let lock : Value := .foreign ⟨"Lock", .ok "lock", .ok true, some "no copies"⟩
    (lookup "a" [("a", lock)] = .ok lock ∧
      Template.resolve [("a", lock)] (.str "\x7b\x7ba\x7d\x7d") =
        .error (.uncopyable "no copies")) ∧
      (Value.dict [("007", .int 1)]).Reaches [.key "007"] (.int 1) ∧
      spell ⟨"a", [.key "007"]⟩ = "a.007" ∧
      lookup "a.007" [("a", .dict [("007", .int 1)])] = .error
        (.unresolved ⟨"a.007", .missingProperty "7" "a" (.object [("007", .leaf "number")])⟩) :=
  ⟨⟨rfl, rfl⟩, .key rfl (.here _), rfl, rfl⟩

end Path
end Workflow
