import Mathlib.Data.List.Forall2
import Mathlib.Data.List.TakeWhile
import Workflow.Path
import Workflow.Proofs.Success
import Workflow.Proofs.Text.Numeral

/-!
The grammar of paths. A path is a part with a name and further parts behind dots; a part is a name
with indices behind it or indices alone. Reading keeps to this grammar but for two things: it takes
a line feed behind the last index of a part, and a number that is not read stops it with a cause of
its own.
-/
namespace Workflow.Path

/-- What stands between dots: a name and the digits of the indices behind it. -/
structure Part where
  name : List Char
  indices : List (List Char)

/-- The digits of an index, of any script and any number. -/
def IsIndex (digits : List Char) : Prop :=
  digits ≠ [] ∧ ∀ c ∈ digits, Text.isDecimal c = true

def indexText (digits : List Char) : List Char := '[' :: (digits ++ [']'])

namespace Part

def text (part : Part) : List Char := part.name ++ part.indices.flatMap indexText

/-- Names have no dots and brackets, indices are digits, and one of both is there. -/
structure Proper (part : Part) : Prop where
  name : ∀ c ∈ part.name, c ≠ '.' ∧ isBracket c = false
  indices : ∀ digits ∈ part.indices, IsIndex digits
  present : part.name ≠ [] ∨ part.indices ≠ []

/-- A part stands as it is written, or with a line feed behind its last index. -/
def Stands (part : Part) (text : List Char) : Prop :=
  part.Proper ∧ (text = part.text ∨ part.indices ≠ [] ∧ text = part.text ++ ['\n'])

/-- The numbers in a part are read. The name of the first part is no number. -/
structure Counts (first : Bool) (part : Part) : Prop where
  name : first = false → part.name ≠ [] → part.name.all Text.isDigit = true →
    Text.IsNumeral part.name
  indices : ∀ digits ∈ part.indices, digits.length ≤ Text.numeralLimit

/-- In the first part only indices are numbers. -/
theorem counts_first {part : Part}
    (short : ∀ digits ∈ part.indices, digits.length ≤ Text.numeralLimit) : part.Counts true where
  name first := by cases first
  indices := short

end Part

/-- A text is a path as the grammar has it. -/
def InGrammar (text : List Char) : Prop :=
  ∃ (head : Part) (rest : List Part), head.name ≠ [] ∧ (∀ part ∈ head :: rest, part.Proper) ∧
    text = head.text ++ rest.flatMap fun part => '.' :: part.text

/-! ### Indices -/

/-- The text of some indices, with a line feed at its end or without. -/
inductive Indices : List (List Char) → List Char → Prop
  | nil : Indices [] []
  | lineFeed : Indices [] ['\n']
  | index {digits : List Char} {indices : List (List Char)} {rest : List Char} :
    IsIndex digits → Indices indices rest →
    Indices (digits :: indices) ('[' :: (digits ++ ']' :: rest))

theorem indices_iff (indices : List (List Char)) (text : List Char) :
    Indices indices text ↔ (∀ digits ∈ indices, IsIndex digits) ∧
      (text = indices.flatMap indexText ∨ text = indices.flatMap indexText ++ ['\n']) := by
  constructor
  · intro spelled
    induction spelled with
    | nil => simp
    | lineFeed => simp
    | @index digits indices rest index _ ih =>
      obtain ⟨others, written⟩ := ih
      refine ⟨List.forall_mem_cons.2 ⟨index, others⟩, ?_⟩
      rcases written with rfl | rfl <;> simp [indexText]
  · rintro ⟨proper, written⟩
    induction indices generalizing text with
    | nil =>
      rcases written with rfl | rfl
      · exact .nil
      · exact .lineFeed
    | cons digits indices ih =>
      obtain ⟨index, others⟩ := List.forall_mem_cons.1 proper
      rcases written with rfl | rfl
      · simpa [indexText] using Indices.index index (ih _ others (.inl rfl))
      · simpa [indexText] using Indices.index index (ih _ others (.inr rfl))

theorem not_isDecimal_close : Text.isDecimal ']' = false := by decide

/-- Digits may stand in names. -/
theorem plain_of_isDecimal {c : Char} (decimal : Text.isDecimal c = true) :
    c ≠ '.' ∧ isBracket c = false := by
  have opening : c ≠ '[' := by
    rintro rfl
    cases decimal
  have closing : c ≠ ']' := by
    rintro rfl
    cases decimal
  refine ⟨?_, by simp [isBracket, opening, closing]⟩
  rintro rfl
  cases decimal

/-- An open index goes on to the bracket that closes it. -/
theorem brackets?_digits (read digits rest : List Char)
    (decimal : ∀ c ∈ digits, Text.isDecimal c = true) (present : read ≠ [] ∨ digits ≠ []) :
    brackets? (some read) (digits ++ ']' :: rest) =
      (brackets? none rest).map ((read.reverse ++ digits) :: ·) := by
  induction digits generalizing read with
  | nil =>
    have kept : read ≠ [] := by simpa using present
    simp [brackets?, not_isDecimal_close, kept]
  | cons c digits ih =>
    obtain ⟨first, others⟩ := List.forall_mem_cons.1 decimal
    rw [List.cons_append, brackets?, if_pos first,
      ih (c :: read) others (.inl (List.cons_ne_nil c read))]
    simp

theorem brackets?_open {read text : List Char} {found : List (List Char)}
    (success : brackets? (some read) text = some found) :
    ∃ digits rest indices, text = digits ++ ']' :: rest ∧
      (∀ c ∈ digits, Text.isDecimal c = true) ∧ read.reverse ++ digits ≠ [] ∧
      brackets? none rest = some indices ∧ found = (read.reverse ++ digits) :: indices := by
  induction text generalizing read with
  | nil => simp [brackets?] at success
  | cons c text ih =>
    rw [brackets?] at success
    split at success
    next decimal =>
      obtain ⟨digits, rest, indices, rfl, others, present, later, rfl⟩ := ih success
      refine ⟨c :: digits, rest, indices, rfl, List.forall_mem_cons.2 ⟨decimal, others⟩, ?_, later,
        ?_⟩
      · simp
      · simp
    next =>
      split at success
      next closed =>
        simp only [Bool.and_eq_true, decide_eq_true_eq, Bool.not_eq_true',
          List.isEmpty_eq_false_iff] at closed
        obtain ⟨rfl, present⟩ := closed
        obtain ⟨indices, later, rfl⟩ := Option.map_eq_some_iff.1 success
        exact ⟨[], text, indices, rfl, by simp, by simpa using present, later, by simp⟩
      next => cases success

/-- Reading brackets finds the indices that a text spells. -/
theorem brackets?_eq_some_iff (text : List Char) (indices : List (List Char)) :
    brackets? none text = some indices ↔ Indices indices text := by
  constructor
  · intro success
    induction length : text.length using Nat.strongRecOn generalizing text indices with
    | ind n ih =>
      cases text with
      | nil =>
        cases success
        exact .nil
      | cons c rest =>
        rw [brackets?] at success
        split at success
        next opened =>
          subst opened
          obtain ⟨digits, left, later, rfl, decimal, present, behind, rfl⟩ :=
            brackets?_open success
          have shorter : left.length < n := by
            rw [← length]
            simp only [List.length_cons, List.length_append]
            omega
          exact .index ⟨present, decimal⟩ (ih _ shorter left later behind rfl)
        next =>
          split at success
          next ends =>
            simp only [Bool.and_eq_true, decide_eq_true_eq, List.isEmpty_iff] at ends
            obtain ⟨rfl, rfl⟩ := ends
            cases success
            exact .lineFeed
          next => cases success
  · intro spelled
    induction spelled with
    | nil => rfl
    | lineFeed => rfl
    | @index digits indices rest index _ ih =>
      rw [brackets?, if_pos rfl, brackets?_digits [] digits rest index.2 (.inr index.1), ih]
      rfl

/-! ### Parts -/

/-- Reading a part without dots finds what stands there. -/
theorem part?_eq_some_iff {text : List Char} (dotless : '.' ∉ text) (part : Part) :
    part? text = some (part.name, part.indices) ↔ part.Stands text := by
  obtain ⟨name, indices⟩ := part
  constructor
  · intro success
    obtain ⟨found, brackets, present⟩ := Option.bind_eq_some_iff.1 success
    split at present
    next => cases present
    next something =>
      cases present
      obtain ⟨proper, written⟩ := (indices_iff ..).1 ((brackets?_eq_some_iff ..).1 brackets)
      have whole := List.takeWhile_append_dropWhile (p := (!isBracket ·)) (l := text)
      simp only [Bool.and_eq_true, List.isEmpty_iff, not_and] at something
      refine ⟨⟨fun c member => ?_, proper, ?_⟩, ?_⟩
      · refine ⟨?_, by simpa using List.mem_takeWhile_imp member⟩
        rintro rfl
        exact dotless ((List.takeWhile_sublist _).subset member)
      · by_cases bare : text.takeWhile (!isBracket ·) = []
        · exact .inr (something bare)
        · exact .inl bare
      · rcases written with written | written
        · exact .inl (whole.symm.trans (congrArg _ written))
        · right
          refine ⟨?_, ?_⟩
          · -- Without an index the line feed would belong to the name.
            rintro rfl
            have kept := List.head?_dropWhile_not (!isBracket ·) text
            rw [written] at kept
            simp [isBracket] at kept
          · exact whole.symm.trans ((congrArg _ written).trans (List.append_assoc ..).symm)
  · rintro ⟨proper, written⟩
    obtain ⟨tail, rfl, spelled, starts⟩ : ∃ tail, text = name ++ tail ∧ Indices indices tail ∧
        tail.takeWhile (!isBracket ·) = [] := by
      have opens (digits : List Char) (others : List (List Char)) (after : List Char) :
          ((digits :: others).flatMap indexText ++ after).takeWhile (!isBracket ·) = [] := by
        simp [indexText, isBracket]
      rcases written with rfl | ⟨present, rfl⟩
      · refine ⟨_, rfl, (indices_iff ..).2 ⟨proper.indices, .inl rfl⟩, ?_⟩
        cases indices with
        | nil => rfl
        | cons digits others => simpa using opens digits others []
      · refine ⟨_, List.append_assoc .., (indices_iff ..).2 ⟨proper.indices, .inr rfl⟩, ?_⟩
        cases indices with
        | nil => exact absurd rfl present
        | cons digits others => exact opens digits others ['\n']
    have free : ∀ c ∈ name, (!isBracket c) = true := fun c member => by
      simp [(proper.name c member).2]
    have front : (name ++ tail).takeWhile (!isBracket ·) = name := by
      rw [List.takeWhile_append_of_pos free, starts, List.append_nil]
    have back : (name ++ tail).dropWhile (!isBracket ·) = tail := by
      rw [List.dropWhile_append_of_pos free]
      have whole := List.takeWhile_append_dropWhile (p := (!isBracket ·)) (l := tail)
      rwa [starts, List.nil_append] at whole
    unfold part?
    dsimp only
    rw [front, back, (brackets?_eq_some_iff ..).2 spelled, Option.bind_some, if_neg]
    simp only [Bool.and_eq_true, List.isEmpty_iff, not_and]
    intro bare
    exact proper.present.resolve_left (not_not.2 bare)

theorem Part.Stands.ne_nil {part : Part} {text : List Char} (stands : part.Stands text) :
    text ≠ [] := by
  rintro rfl
  obtain ⟨proper, written⟩ := stands
  have something : part.text ≠ [] := by
    rcases proper.present with name | indices
    · simp [text, name]
    · obtain ⟨digits, others, same⟩ := List.exists_cons_of_ne_nil indices
      simp [text, same, indexText]
  rcases written with bare | ⟨_, bare⟩
  · exact something bare.symm
  · simp at bare

/-- The segments of a name: none, an index or a key. -/
def nameSegments (name : List Char) : List Segment :=
  if name.isEmpty then []
  else if name.all Text.isDigit then [.dotted (Text.numeralValue name)]
  else [.key (String.ofList name)]

namespace Part

def indexSegments (part : Part) : List Segment :=
  part.indices.map fun digits => .bracket (Text.numeralValue digits)

def segments (part : Part) : List Segment := nameSegments part.name ++ part.indexSegments

end Part

theorem ofName_ok_iff (name : List Char) (segments : List Segment) :
    ofName name = .ok segments ↔
      (name ≠ [] → name.all Text.isDigit = true → Text.IsNumeral name) ∧
        segments = nameSegments name := by
  unfold ofName nameSegments
  by_cases bare : name = []
  · subst bare
    exact ⟨fun success => ⟨fun present => absurd rfl present, (Except.ok.inj success).symm⟩,
      fun ⟨_, same⟩ => congrArg _ same.symm⟩
  · by_cases digits : name.all Text.isDigit = true
    · simp only [List.isEmpty_eq_false_iff.2 bare, Bool.false_eq_true, if_false, digits, if_true,
        bare, ne_eq, not_false_eq_true, forall_const]
      constructor
      · intro success
        obtain ⟨n, read, rfl⟩ := Success.map_ok success
        obtain ⟨numeral, rfl⟩ := (Text.readNumeral_ok_iff name n).1 read
        exact ⟨numeral, rfl⟩
      · rintro ⟨numeral, rfl⟩
        rw [(Text.readNumeral_ok_iff name _).2 ⟨numeral, rfl⟩]
        rfl
    · simp only [List.isEmpty_eq_false_iff.2 bare, Bool.false_eq_true, if_false, if_neg digits]
      exact ⟨fun success => ⟨fun _ all => absurd all digits, (Except.ok.inj success).symm⟩,
        fun ⟨_, same⟩ => congrArg _ same.symm⟩

theorem ofIndices_ok_iff {indices : List (List Char)} (proper : ∀ digits ∈ indices, IsIndex digits)
    (segments : List Segment) :
    ofIndices indices = .ok segments ↔
      (∀ digits ∈ indices, digits.length ≤ Text.numeralLimit) ∧
        segments = indices.map fun digits => .bracket (Text.numeralValue digits) := by
  induction indices generalizing segments with
  | nil => simp [ofIndices, eq_comm]
  | cons digits indices ih =>
    obtain ⟨index, others⟩ := List.forall_mem_cons.1 proper
    constructor
    · intro success
      obtain ⟨n, read, success⟩ := Success.bind_ok success
      obtain ⟨numeral, rfl⟩ := (Text.readNumeral_ok_iff digits n).1 read
      obtain ⟨later, rest, same⟩ := Success.bind_ok success
      cases same
      obtain ⟨short, rfl⟩ := (ih others later).1 rest
      exact ⟨List.forall_mem_cons.2 ⟨numeral.short, short⟩, rfl⟩
    · rintro ⟨short, rfl⟩
      obtain ⟨first, short⟩ := List.forall_mem_cons.1 short
      have numeral : Text.IsNumeral digits := ⟨index.1, index.2, first⟩
      rw [ofIndices, (Text.readNumeral_ok_iff digits _).2 ⟨numeral, rfl⟩,
        (ih others _).2 ⟨short, rfl⟩]
      rfl

theorem readPart_ok_iff {text : List Char} (dotless : '.' ∉ text) (part : Part) :
    readPart text = .ok (part.name, part.indices) ↔ part.Stands text := by
  rw [← part?_eq_some_iff dotless]
  unfold readPart
  cases part? text <;> simp

/-- At most one part stands as a text. -/
theorem Part.Stands.unique {text : List Char} {part other : Part} (dotless : '.' ∉ text)
    (stands : part.Stands text) (also : other.Stands text) : part = other := by
  have first := (part?_eq_some_iff dotless part).2 stands
  have second := (part?_eq_some_iff dotless other).2 also
  rw [first, Option.some.injEq, Prod.mk.injEq] at second
  cases part
  cases other
  rw [Part.mk.injEq]
  exact second

/-! ### Sequences of parts -/

/-- A text consists of parts between dots, the first of which has a name. -/
structure Consists (text : List Char) (head : Part) (rest : List Part) : Prop where
  stand : List.Forall₂ Part.Stands (head :: rest) (Text.splitOn '.' text)
  named : head.name ≠ []

/-- All numbers in the parts of a path are read. -/
structure Counted (head : Part) (rest : List Part) : Prop where
  head : head.Counts true
  rest : ∀ part ∈ rest, part.Counts false

theorem ofParts_ok_iff {texts : List (List Char)} (dotless : ∀ text ∈ texts, '.' ∉ text)
    (segments : List Segment) :
    ofParts texts = .ok segments ↔ ∃ parts, List.Forall₂ Part.Stands parts texts ∧
      (∀ part ∈ parts, part.Counts false) ∧ segments = parts.flatMap Part.segments := by
  constructor
  · intro success
    induction texts generalizing segments with
    | nil =>
      cases success
      exact ⟨[], .nil, by simp, rfl⟩
    | cons text texts ih =>
      obtain ⟨first, others⟩ := List.forall_mem_cons.1 dotless
      obtain ⟨⟨name, indices⟩, read, success⟩ := Success.bind_ok success
      obtain ⟨named, ofName, success⟩ := Success.bind_ok success
      obtain ⟨indexed, ofIndices, success⟩ := Success.bind_ok success
      obtain ⟨later, rest, same⟩ := Success.bind_ok success
      have stands := (readPart_ok_iff first ⟨name, indices⟩).1 read
      obtain ⟨numeral, rfl⟩ := (ofName_ok_iff ..).1 (Success.mapError_ok_iff.1 ofName)
      obtain ⟨short, rfl⟩ :=
        (ofIndices_ok_iff stands.1.indices _).1 (Success.mapError_ok_iff.1 ofIndices)
      obtain ⟨parts, stand, counts, rfl⟩ := ih others later rest
      refine ⟨⟨name, indices⟩ :: parts, .cons stands stand, List.forall_mem_cons.2 ⟨?_, counts⟩, ?_⟩
      · exact ⟨fun _ => numeral, short⟩
      · exact (Except.ok.inj same).symm
  · rintro ⟨parts, stand, counts, rfl⟩
    induction stand with
    | nil => rfl
    | @cons part text parts texts stands _ ih =>
      obtain ⟨first, others⟩ := List.forall_mem_cons.1 dotless
      obtain ⟨here, later⟩ := List.forall_mem_cons.1 counts
      rw [ofParts, (readPart_ok_iff first part).2 stands]
      have named := (ofName_ok_iff part.name _).2 ⟨here.name rfl, rfl⟩
      have indexed := (ofIndices_ok_iff stands.1.indices _).2 ⟨here.indices, rfl⟩
      simp only [bind, Except.bind, named, indexed, Success.mapError_ok, ih others later]
      rfl

/-- What a path is read from, and as what. -/
theorem parse_ok_iff (expression : String) (path : Path) :
    parse expression = .ok path ↔ ∃ head rest, Consists expression.toList head rest ∧
      Counted head rest ∧
      path = ⟨String.ofList head.name, head.indexSegments ++ rest.flatMap Part.segments⟩ := by
  obtain ⟨first, texts, split⟩ :=
    List.exists_cons_of_ne_nil (Text.splitOn_ne_nil '.' expression.toList)
  have dotless := ((Text.splitOn_eq_cons_iff ..).1 split).1
  obtain ⟨dotlessFirst, dotlessRest⟩ := List.forall_mem_cons.1 dotless
  unfold parse
  rw [split]
  constructor
  · intro success
    dsimp only at success
    split at success
    next => cases success
    next =>
      obtain ⟨⟨name, indices⟩, read, success⟩ := Success.bind_ok success
      dsimp only at success
      split at success
      next => cases success
      next present =>
        obtain ⟨indexed, ofIndices, success⟩ := Success.bind_ok success
        obtain ⟨segments, rest, same⟩ := Success.bind_ok success
        have stands := (readPart_ok_iff dotlessFirst ⟨name, indices⟩).1 read
        obtain ⟨short, rfl⟩ :=
          (ofIndices_ok_iff stands.1.indices _).1 (Success.mapError_ok_iff.1 ofIndices)
        obtain ⟨parts, stand, counts, rfl⟩ := (ofParts_ok_iff dotlessRest _).1 rest
        refine ⟨⟨name, indices⟩, parts, ⟨?_, ?_⟩, ⟨Part.counts_first short, counts⟩, ?_⟩
        · rw [split]
          exact .cons stands stand
        · simpa using present
        · exact (Except.ok.inj same).symm
  · rintro ⟨head, rest, ⟨stand, named⟩, counted, rfl⟩
    rw [split] at stand
    cases stand with
    | cons stands stand =>
      have present : expression.toList.isEmpty = false := by
        rw [List.isEmpty_eq_false_iff]
        intro empty
        rw [empty, Text.splitOn, List.cons.injEq] at split
        exact stands.ne_nil split.1.symm
      have indexed := (ofIndices_ok_iff stands.1.indices _).2 ⟨counted.head.indices, rfl⟩
      have segments := (ofParts_ok_iff dotlessRest _).2 ⟨rest, stand, counted.rest, rfl⟩
      simp only [present, Bool.false_eq_true, if_false, bind, Except.bind,
        (readPart_ok_iff dotlessFirst head).2 stands, List.isEmpty_eq_false_iff.2 named, indexed,
        Success.mapError_ok, segments]
      rfl

/-! ### Numbers that are not read -/

/-- From left to right, a part with a number that is not read comes before all that is no part. -/
inductive MeetsNumber : Bool → List (List Char) → Prop
  | here {first : Bool} {part : Part} {text : List Char} {rest : List (List Char)} :
    part.Stands text → (first = true → part.name ≠ []) → ¬part.Counts first →
    MeetsNumber first (text :: rest)
  | later {first : Bool} {part : Part} {text : List Char} {rest : List (List Char)} :
    part.Stands text → (first = true → part.name ≠ []) → part.Counts first →
    MeetsNumber false rest → MeetsNumber first (text :: rest)

/-- What is met in a text that is split into a part and others. -/
theorem meetsNumber_cons_iff {first : Bool} {part : Part} {text : List Char}
    {rest : List (List Char)} (dotless : '.' ∉ text) (stands : part.Stands text) :
    MeetsNumber first (text :: rest) ↔ (first = true → part.name ≠ []) ∧
      (part.Counts first → MeetsNumber false rest) := by
  constructor
  · intro meets
    cases meets with
    | here stands' named miscounts =>
      rw [stands.unique dotless stands']
      exact ⟨named, fun counts => absurd counts miscounts⟩
    | later stands' named counts meets =>
      rw [stands.unique dotless stands']
      exact ⟨named, fun _ => meets⟩
  · rintro ⟨named, meets⟩
    by_cases counts : part.Counts first
    · exact .later stands named counts (meets counts)
    · exact .here stands named counts

/-- Where no part stands, a text is refused as malformed. -/
theorem readPart_error {text : List Char} {e : Error} (dotless : '.' ∉ text)
    (refused : readPart text = .error e) :
    (∃ fault, e = .malformed fault) ∧ ∀ part : Part, ¬part.Stands text := by
  constructor
  · unfold readPart at refused
    split at refused
    · cases refused
    · cases refused
      exact ⟨_, rfl⟩
  · intro part stands
    rw [(readPart_ok_iff dotless part).2 stands] at refused
    cases refused

/-- A part with an index that is refused does not count. -/
theorem not_counts_of_ofIndices {first : Bool} {part : Part} {cause : Text.NumeralError}
    (proper : part.Proper) (refused : ofIndices part.indices = .error cause) :
    ¬part.Counts first := by
  intro counts
  have read := (ofIndices_ok_iff proper.indices _).2 ⟨counts.indices, rfl⟩
  rw [refused] at read
  cases read

theorem not_counts_of_ofName {part : Part} {cause : Text.NumeralError}
    (refused : ofName part.name = .error cause) : ¬part.Counts false := by
  intro counts
  have read := (ofName_ok_iff part.name _).2 ⟨counts.name rfl, rfl⟩
  rw [refused] at read
  cases read

theorem not_meetsNumber {first : Bool} {text : List Char} {rest : List (List Char)}
    (none : ∀ part : Part, ¬part.Stands text) : ¬MeetsNumber first (text :: rest) := by
  intro meets
  cases meets with
  | here stands => exact none _ stands
  | later stands => exact none _ stands

theorem ofParts_numeral_iff {texts : List (List Char)} (dotless : ∀ text ∈ texts, '.' ∉ text) :
    (∃ cause, ofParts texts = .error (.numeral cause)) ↔ MeetsNumber false texts := by
  induction texts with
  | nil =>
    simp only [ofParts, reduceCtorEq, exists_false, false_iff]
    rintro ⟨⟩
  | cons text texts ih =>
    obtain ⟨first, others⟩ := List.forall_mem_cons.1 dotless
    rw [ofParts]
    cases read : readPart text with
    | error e =>
      obtain ⟨⟨fault, rfl⟩, none⟩ := readPart_error first read
      simpa [bind, Except.bind] using not_meetsNumber none
    | ok found =>
      obtain ⟨name, indices⟩ := found
      have stands := (readPart_ok_iff first ⟨name, indices⟩).1 read
      rw [meetsNumber_cons_iff first stands]
      cases named : ofName name with
      | error cause =>
        have miscounts : ¬(⟨name, indices⟩ : Part).Counts false := not_counts_of_ofName named
        simp [bind, Except.bind, named, miscounts]
      | ok segments =>
        cases indexed : ofIndices indices with
        | error cause =>
          have miscounts : ¬(⟨name, indices⟩ : Part).Counts false :=
            not_counts_of_ofIndices stands.1 indexed
          simp [bind, Except.bind, named, indexed, miscounts]
        | ok later =>
          have counts : (⟨name, indices⟩ : Part).Counts false :=
            ⟨fun _ => ((ofName_ok_iff name _).1 named).1,
              ((ofIndices_ok_iff stands.1.indices _).1 indexed).1⟩
          rw [← ih others]
          cases rest : ofParts texts <;>
            simp [bind, Except.bind, pure, Except.pure, named, indexed, counts]

/-- A path is refused for a number exactly if one is met. -/
theorem parse_numeral_iff (expression : String) :
    (∃ cause, parse expression = .error (.numeral cause)) ↔
      MeetsNumber true (Text.splitOn '.' expression.toList) := by
  obtain ⟨first, texts, split⟩ :=
    List.exists_cons_of_ne_nil (Text.splitOn_ne_nil '.' expression.toList)
  obtain ⟨dotless, whole⟩ := (Text.splitOn_eq_cons_iff ..).1 split
  obtain ⟨dotlessFirst, dotlessRest⟩ := List.forall_mem_cons.1 dotless
  unfold parse
  rw [split]
  dsimp only
  split
  next empty =>
    rw [List.isEmpty_iff] at empty
    rw [empty, Text.splitOn, List.cons.injEq] at split
    simpa using not_meetsNumber fun part stands => stands.ne_nil split.1.symm
  next present =>
    cases read : readPart first with
    | error e =>
      obtain ⟨⟨fault, rfl⟩, none⟩ := readPart_error dotlessFirst read
      simpa [bind, Except.bind] using not_meetsNumber none
    | ok found =>
      obtain ⟨name, indices⟩ := found
      have stands := (readPart_ok_iff dotlessFirst ⟨name, indices⟩).1 read
      rw [meetsNumber_cons_iff dotlessFirst stands]
      by_cases named : name = []
      · simp [bind, Except.bind, named, throw, throwThe, MonadExceptOf.throw]
      · cases indexed : ofIndices indices with
        | error cause =>
          have miscounts : ¬(⟨name, indices⟩ : Part).Counts true :=
            not_counts_of_ofIndices stands.1 indexed
          simp [bind, Except.bind, named, indexed, miscounts]
        | ok later =>
          have counts : (⟨name, indices⟩ : Part).Counts true :=
            Part.counts_first ((ofIndices_ok_iff stands.1.indices _).1 indexed).1
          rw [← ofParts_numeral_iff dotlessRest]
          cases rest : ofParts texts <;>
            simp [bind, Except.bind, pure, Except.pure, named, indexed, counts]

/-! ### The grammar -/

theorem Part.Proper.dotless {part : Part} (proper : part.Proper) : '.' ∉ part.text := by
  intro dot
  rcases List.mem_append.1 dot with name | index
  · exact (proper.name '.' name).1 rfl
  · obtain ⟨digits, member, dot⟩ := List.mem_flatMap.1 index
    simp only [indexText, List.mem_cons, List.mem_append, List.not_mem_nil, or_false] at dot
    rcases dot with dot | dot | dot
    · cases dot
    · exact (plain_of_isDecimal ((proper.indices digits member).2 '.' dot)).1 rfl
    · cases dot

/-- Written parts with dots between them split into these parts again. -/
theorem splitOn_parts {head : Part} {rest : List Part}
    (proper : ∀ part ∈ head :: rest, part.Proper) :
    Text.splitOn '.' (head.text ++ rest.flatMap fun part => '.' :: part.text) =
      (head :: rest).map Part.text := by
  rw [List.map_cons, Text.splitOn_eq_cons_iff, ← List.map_cons, List.flatMap_map]
  refine ⟨fun piece member => ?_, rfl⟩
  obtain ⟨part, among, rfl⟩ := List.mem_map.1 member
  exact (proper part among).dotless

theorem consists_of_proper {head : Part} {rest : List Part} (named : head.name ≠ [])
    (proper : ∀ part ∈ head :: rest, part.Proper) :
    Consists (head.text ++ rest.flatMap fun part => '.' :: part.text) head rest := by
  refine ⟨?_, named⟩
  rw [splitOn_parts proper, List.forall₂_map_right_iff, List.forall₂_same]
  exact fun part among => ⟨proper part among, .inl rfl⟩

/-- The texts of the grammar are those that split into parts as they are written. -/
theorem inGrammar_iff (text : List Char) :
    InGrammar text ↔ ∃ (head : Part) (rest : List Part), head.name ≠ [] ∧
      (∀ part ∈ head :: rest, part.Proper) ∧
      Text.splitOn '.' text = (head :: rest).map Part.text := by
  constructor
  · rintro ⟨head, rest, named, proper, rfl⟩
    exact ⟨head, rest, named, proper, splitOn_parts proper⟩
  · rintro ⟨head, rest, named, proper, split⟩
    refine ⟨head, rest, named, proper, ?_⟩
    rw [List.map_cons] at split
    rw [((Text.splitOn_eq_cons_iff ..).1 split).2, List.flatMap_map]

theorem Part.exists_text_eq {part : Part} (present : part.indices ≠ []) :
    ∃ front, part.text = front ++ [']'] := by
  obtain ⟨others, last, same⟩ := (List.eq_nil_or_concat part.indices).resolve_left present
  refine ⟨part.name ++ others.flatMap indexText ++ '[' :: last, ?_⟩
  simp [text, same, indexText]

/-- A part that stands is there as it is written, unless an index and a line feed end it. -/
theorem Part.Stands.eq_text_iff {part : Part} {text : List Char} (stands : part.Stands text) :
    text = part.text ↔ ¬[']', '\n'] <:+ text := by
  obtain ⟨proper, written⟩ := stands
  constructor
  · rintro rfl ⟨front, same⟩
    by_cases bare : part.indices = []
    · have plain : part.text = part.name := by simp [Part.text, bare]
      have bracket : ']' ∈ part.name := by
        rw [← plain, ← same]
        simp
      exact absurd (proper.name ']' bracket).2 (by decide)
    · obtain ⟨front', closed⟩ := exists_text_eq bare
      rw [closed, List.append_cons] at same
      have last := (List.append_inj' same rfl).2
      cases last
  · intro unfed
    refine written.resolve_right ?_
    rintro ⟨present, rfl⟩
    obtain ⟨front, closed⟩ := exists_text_eq present
    exact unfed ⟨front, by rw [closed, List.append_assoc]; rfl⟩

/-- In a text of the grammar no line feed stands behind an index that ends a part. -/
theorem InGrammar.unfed {text piece : List Char} (grammar : InGrammar text)
    (member : piece ∈ Text.splitOn '.' text) : ¬[']', '\n'] <:+ piece := by
  obtain ⟨head, rest, _, proper, split⟩ := (inGrammar_iff text).1 grammar
  rw [split] at member
  obtain ⟨part, among, rfl⟩ := List.mem_map.1 member
  have stands : part.Stands part.text := ⟨proper part among, .inl rfl⟩
  exact stands.eq_text_iff.1 rfl

theorem meetsNumber_of_not_counts {parts : List Part} {texts : List (List Char)}
    (stand : List.Forall₂ Part.Stands parts texts)
    (miscounts : ¬∀ part ∈ parts, part.Counts false) : MeetsNumber false texts := by
  induction stand with
  | nil => exact absurd (by simp) miscounts
  | @cons part text parts texts stands _ ih =>
    by_cases counts : part.Counts false
    · refine .later stands nofun counts (ih fun others => miscounts ?_)
      exact List.forall_mem_cons.2 ⟨counts, others⟩
    · exact .here stands nofun counts

theorem meetsNumber_of_not_counted {text : List Char} {head : Part} {rest : List Part}
    (consists : Consists text head rest) (miscounts : ¬Counted head rest) :
    MeetsNumber true (Text.splitOn '.' text) := by
  obtain ⟨stand, named⟩ := consists
  obtain ⟨first, texts, split⟩ := List.exists_cons_of_ne_nil (Text.splitOn_ne_nil '.' text)
  rw [split] at stand ⊢
  cases stand with
  | cons stands stand =>
    by_cases counts : head.Counts true
    · refine .later stands (fun _ => named) counts (meetsNumber_of_not_counts stand ?_)
      exact fun others => miscounts ⟨counts, others⟩
    · exact .here stands (fun _ => named) counts

/-- A text keeps to the grammar if it is read exactly where the grammar has it, and refused as
malformed everywhere else. -/
def Conforms (expression : String) : Prop :=
  (InGrammar expression.toList → ∃ path, parse expression = .ok path) ∧
  (¬InGrammar expression.toList → ∃ fault, parse expression = .error (.malformed fault))

/-- A text is read although some part of it ends in an index and a line feed. -/
def TakesLineFeed (text : List Char) : Prop :=
  (∃ head rest, Consists text head rest ∧ Counted head rest) ∧
    ∃ piece ∈ Text.splitOn '.' text, [']', '\n'] <:+ piece

/-- Parts without such ends are there as they are written. -/
theorem written_of_unfed {parts : List Part} {texts : List (List Char)}
    (stand : List.Forall₂ Part.Stands parts texts)
    (unfed : ∀ piece ∈ texts, ¬[']', '\n'] <:+ piece) :
    (∀ part ∈ parts, part.Proper) ∧ texts = parts.map Part.text := by
  induction stand with
  | nil => exact ⟨by simp, rfl⟩
  | @cons part text parts texts stands _ ih =>
    obtain ⟨here, later⟩ := List.forall_mem_cons.1 unfed
    obtain ⟨proper, written⟩ := ih later
    refine ⟨List.forall_mem_cons.2 ⟨stands.1, proper⟩, ?_⟩
    rw [List.map_cons, ← written, ← stands.eq_text_iff.2 here]

/-- Reading keeps to the grammar except for texts in which it meets a number that it does not read
or takes a line feed behind an index. -/
theorem parse_conforms_iff (expression : String) :
    Conforms expression ↔ ¬MeetsNumber true (Text.splitOn '.' expression.toList) ∧
      ¬TakesLineFeed expression.toList := by
  constructor
  · rintro ⟨accepts, refuses⟩
    constructor
    · intro meets
      obtain ⟨cause, refused⟩ := (parse_numeral_iff expression).2 meets
      by_cases grammar : InGrammar expression.toList
      · obtain ⟨path, read⟩ := accepts grammar
        rw [refused] at read
        cases read
      · obtain ⟨fault, malformed⟩ := refuses grammar
        rw [refused] at malformed
        cases malformed
    · rintro ⟨⟨head, rest, consists, counted⟩, piece, member, feed⟩
      have read := (parse_ok_iff expression _).2 ⟨head, rest, consists, counted, rfl⟩
      by_cases grammar : InGrammar expression.toList
      · exact grammar.unfed member feed
      · obtain ⟨fault, malformed⟩ := refuses grammar
        rw [read] at malformed
        cases malformed
  · rintro ⟨noNumber, noFeed⟩
    constructor
    · intro grammar
      obtain ⟨head, rest, named, proper, written⟩ := grammar
      have consists : Consists expression.toList head rest := by
        rw [written]
        exact consists_of_proper named proper
      have counted : Counted head rest := by
        by_contra miscounts
        exact noNumber (meetsNumber_of_not_counted consists miscounts)
      exact ⟨_, (parse_ok_iff expression _).2 ⟨head, rest, consists, counted, rfl⟩⟩
    · intro outside
      cases read : parse expression with
      | ok path =>
        obtain ⟨head, rest, consists, counted, rfl⟩ := (parse_ok_iff ..).1 read
        obtain ⟨proper, written⟩ := written_of_unfed consists.stand fun piece member feed =>
          noFeed ⟨⟨head, rest, consists, counted⟩, piece, member, feed⟩
        exact absurd ((inGrammar_iff _).2 ⟨head, rest, consists.named, proper, written⟩) outside
      | error e =>
        cases e with
        | malformed fault => exact ⟨fault, rfl⟩
        | numeral cause =>
          exact absurd ((parse_numeral_iff expression).1 ⟨cause, read⟩) noNumber

/-- A superscript counts as a digit and is not read as a number, so a name of the grammar is refused
for it. A line feed behind an index is outside the grammar and is taken. -/
theorem superscript_refused_lineFeed_taken :
    (InGrammar "a.²".toList ∧ parse "a.²" = .error (.numeral (.notDecimal ['²']))) ∧
      ¬InGrammar "a[0]\n".toList ∧ parse "a[0]\n" = .ok ⟨"a", [.bracket 0]⟩ := by
  refine ⟨⟨⟨⟨['a'], []⟩, [⟨['²'], []⟩], by decide, ?_, rfl⟩, rfl⟩, ?_, rfl⟩
  · intro part member
    obtain rfl | rfl : part = ⟨['a'], []⟩ ∨ part = ⟨['²'], []⟩ := by simpa using member
    · exact ⟨by simp [isBracket], by simp, .inl (by simp)⟩
    · exact ⟨by simp [isBracket], by simp, .inl (by simp)⟩
  · intro grammar
    have piece : ['a', '[', '0', ']', '\n'] ∈ Text.splitOn '.' "a[0]\n".toList := by decide
    exact grammar.unfed piece (by decide)

end Workflow.Path
