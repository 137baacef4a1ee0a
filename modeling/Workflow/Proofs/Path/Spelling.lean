import Workflow.Proofs.Path.Grammar

/-!
Written paths. A path is written as its step and a hop for each segment; what is written reads as
the path again, with an index for each name that is digits alone. The paths that read as themselves
are those that can be read from any text.
-/
namespace Workflow
namespace Segment

/-- The characters of a hop. -/
def chars (segment : Segment) : List Char := (Path.hopText segment).toList

@[simp]
theorem chars_key (name : String) : (key name).chars = '.' :: name.toList := by
  simp [chars, Path.hopText, text]

@[simp]
theorem chars_dotted (index : Nat) : (dotted index).chars = '.' :: Nat.toDigits 10 index := by
  simp [chars, Path.hopText, text]

@[simp]
theorem chars_bracket (index : Nat) :
    (bracket index).chars = Path.indexText (Nat.toDigits 10 index) := by
  simp [chars, Path.hopText, Path.indexText, toString]

/-- The segment that is read where one is written: a name of digits alone reads as their number. -/
def read : Segment → Segment
  | key name =>
    if name.toList.all Text.isDigit then dotted (Text.numeralValue name.toList) else key name
  | segment => segment

end Segment

namespace Path

/-- A name has no dots and brackets. -/
structure IsName (name : String) : Prop where
  present : name ≠ ""
  plain : ∀ c ∈ name.toList, c ≠ '.' ∧ isBracket c = false

/-- A hop can be read where it is written. -/
def Legible : Segment → Prop
  | .key name => IsName name ∧ (name.toList.all Text.isDigit = true → Text.IsNumeral name.toList)
  | .dotted index | .bracket index => (Nat.toDigits 10 index).length ≤ Text.numeralLimit

theorem toList_spell (path : Path) :
    (spell path).toList = path.step.toList ++ path.segments.flatMap Segment.chars := by
  have grown (segments : List Segment) (front : String) :
      (segments.foldl (fun text segment => text ++ hopText segment) front).toList =
        front.toList ++ segments.flatMap Segment.chars := by
    induction segments generalizing front with
    | nil => simp
    | cons segment segments ih =>
      rw [List.foldl_cons, ih, String.toList_append, List.append_assoc, List.flatMap_cons]
      rfl
  exact grown path.segments path.step

/-! ### What hops are read as -/

/-- Segments and those that come behind them, as far as both are read. -/
def joined (first later : Except Error (List Segment)) : Except Error (List Segment) := do
  let segments ← first
  let others ← later
  return segments ++ others

theorem joined_assoc (a b c : Except Error (List Segment)) :
    joined (joined a b) c = joined a (joined b c) := by
  cases a <;> cases b <;> cases c <;> simp [joined, bind, Except.bind, pure, Except.pure]

theorem nil_joined (a : Except Error (List Segment)) : joined (.ok []) a = a := by
  cases a <;> rfl

theorem joined_ok {a b : Except Error (List Segment)} {segments : List Segment}
    (success : joined a b = .ok segments) :
    ∃ front back, a = .ok front ∧ b = .ok back ∧ segments = front ++ back := by
  obtain ⟨front, first, success⟩ := Success.bind_ok success
  obtain ⟨back, later, same⟩ := Success.bind_ok success
  exact ⟨front, back, first, later, (Except.ok.inj same).symm⟩

def readName (name : List Char) : Except Error (List Segment) := (ofName name).mapError .numeral

def readIndices (indices : List (List Char)) : Except Error (List Segment) :=
  (ofIndices indices).mapError .numeral

/-- What is read where a hop is written. -/
def readHop : Segment → Except Error (List Segment)
  | .key name => readName name.toList
  | .dotted index => readName (Nat.toDigits 10 index)
  | .bracket index => readIndices [Nat.toDigits 10 index]

def readHops : List Segment → Except Error (List Segment)
  | [] => .ok []
  | segment :: segments => joined (readHop segment) (readHops segments)

theorem readHops_append (front back : List Segment) :
    readHops (front ++ back) = joined (readHops front) (readHops back) := by
  induction front with
  | nil => exact (nil_joined _).symm
  | cons segment front ih => rw [List.cons_append, readHops, ih, readHops, joined_assoc]

theorem readIndices_cons (digits : List Char) (indices : List (List Char)) :
    readIndices (digits :: indices) = joined (readIndices [digits]) (readIndices indices) := by
  unfold readIndices
  rw [ofIndices, ofIndices, ofIndices]
  cases Text.readNumeral digits <;> cases ofIndices indices <;> rfl

theorem ofParts_cons {part : Part} (proper : part.Proper) (dotless : '.' ∉ part.text)
    (texts : List (List Char)) :
    ofParts (part.text :: texts) =
      joined (readName part.name) (joined (readIndices part.indices) (ofParts texts)) := by
  have stands : part.Stands part.text := ⟨proper, .inl rfl⟩
  rw [ofParts, (readPart_ok_iff dotless part).2 stands]
  change (do
    let named ← readName part.name
    let indexed ← readIndices part.indices
    let segments ← ofParts texts
    return named ++ indexed ++ segments) = _
  cases readName part.name <;> cases readIndices part.indices <;> cases ofParts texts <;>
    simp [joined, bind, Except.bind, pure, Except.pure]

theorem isIndex_toDigits (index : Nat) : IsIndex (Nat.toDigits 10 index) :=
  ⟨Nat.toDigits_ne_nil, fun _ => Text.isDecimal_of_mem_toDigits⟩

/-- Hops in a row, written and read as indices behind a name and the parts that follow. -/
structure Grouped (segments : List Segment) (indices : List (List Char)) (rest : List Part) :
    Prop where
  isIndex : ∀ digits ∈ indices, IsIndex digits
  proper : ∀ part ∈ rest, part.Proper
  written : segments.flatMap Segment.chars =
    indices.flatMap indexText ++ rest.flatMap fun part => '.' :: part.text
  read : ∀ tail, joined (readIndices indices) (ofParts (rest.map Part.text ++ tail)) =
    joined (readHops segments) (ofParts tail)

namespace Grouped

variable {segments : List Segment} {indices : List (List Char)} {rest : List Part}

theorem index (index : Nat) (grouped : Grouped segments indices rest) :
    Grouped (.bracket index :: segments) (Nat.toDigits 10 index :: indices) rest where
  isIndex := List.forall_mem_cons.2 ⟨isIndex_toDigits index, grouped.isIndex⟩
  proper := grouped.proper
  written := by simp [grouped.written]
  read tail := by
    rw [readIndices_cons, joined_assoc, grouped.read tail, readHops, readHop, joined_assoc]

/-- A hop to a name begins a part, to which the indices behind it belong. -/
theorem name {segment : Segment} {name : List Char} (present : name ≠ [])
    (plain : ∀ c ∈ name, c ≠ '.' ∧ isBracket c = false) (written : segment.chars = '.' :: name)
    (read : readHop segment = readName name) (grouped : Grouped segments indices rest) :
    Grouped (segment :: segments) [] (⟨name, indices⟩ :: rest) := by
  have proper : (⟨name, indices⟩ : Part).Proper := ⟨plain, grouped.isIndex, .inl present⟩
  refine ⟨by simp, List.forall_mem_cons.2 ⟨proper, grouped.proper⟩, ?_, fun tail => ?_⟩
  · simp [written, grouped.written, Part.text]
  · rw [List.map_cons, List.cons_append, ofParts_cons proper proper.dotless, grouped.read tail,
      readHops, read, joined_assoc]
    exact nil_joined _

end Grouped

theorem exists_grouped {segments : List Segment}
    (named : ∀ name, .key name ∈ segments → IsName name) :
    ∃ indices rest, Grouped segments indices rest := by
  induction segments with
  | nil => exact ⟨[], [], by simp, by simp, rfl, fun tail => rfl⟩
  | cons segment segments ih =>
    obtain ⟨indices, rest, grouped⟩ :=
      ih fun name among => named name (List.mem_cons_of_mem _ among)
    cases segment with
    | key name =>
      obtain ⟨present, plain⟩ := named name List.mem_cons_self
      exact ⟨[], _, grouped.name (by simpa using present) plain (Segment.chars_key name) rfl⟩
    | dotted index =>
      have plain : ∀ c ∈ Nat.toDigits 10 index, c ≠ '.' ∧ isBracket c = false :=
        fun c member => plain_of_isDecimal (Text.isDecimal_of_mem_toDigits member)
      exact ⟨[], _, grouped.name Nat.toDigits_ne_nil plain (Segment.chars_dotted index) rfl⟩
    | bracket index => exact ⟨_, _, grouped.index index⟩

/-- A written path is read hop by hop, and then what stands behind it. -/
theorem parse_hops {step : List Char} {segments : List Segment} {tail : List (List Char)}
    (present : step ≠ []) (plain : ∀ c ∈ step, c ≠ '.' ∧ isBracket c = false)
    (named : ∀ name, .key name ∈ segments → IsName name) (dotless : ∀ text ∈ tail, '.' ∉ text) :
    parse (String.ofList (step ++ (segments.flatMap Segment.chars ++ tail.flatMap ('.' :: ·)))) =
      Path.mk (String.ofList step) <$> joined (readHops segments) (ofParts tail) := by
  obtain ⟨indices, rest, grouped⟩ := exists_grouped named
  have proper : (⟨step, indices⟩ : Part).Proper := ⟨plain, grouped.isIndex, .inl present⟩
  have stands : (⟨step, indices⟩ : Part).Stands (⟨step, indices⟩ : Part).text := ⟨proper, .inl rfl⟩
  have split : Text.splitOn '.' (step ++ (segments.flatMap Segment.chars ++
      tail.flatMap ('.' :: ·))) =
        (⟨step, indices⟩ : Part).text :: (rest.map Part.text ++ tail) := by
    refine (Text.splitOn_eq_cons_iff ..).2 ⟨List.forall_mem_cons.2 ⟨proper.dotless, ?_⟩, ?_⟩
    · intro piece member
      rcases List.mem_append.1 member with member | member
      · obtain ⟨part, among, rfl⟩ := List.mem_map.1 member
        exact (grouped.proper part among).dotless
      · exact dotless piece member
    · simp [grouped.written, Part.text, List.flatMap_map]
  have something : (step ++ (segments.flatMap Segment.chars ++ tail.flatMap ('.' :: ·))).isEmpty =
      false := by simp [present]
  rw [← grouped.read tail, parse, String.toList_ofList, split]
  dsimp only
  rw [something, (readPart_ok_iff proper.dotless ⟨step, indices⟩).2 stands]
  simp only [Bool.false_eq_true, if_false, bind, Except.bind, List.isEmpty_eq_false_iff.2 present]
  change (do
    let indexed ← readIndices indices
    let segments ← ofParts (rest.map Part.text ++ tail)
    return Path.mk (String.ofList step) (indexed ++ segments)) = _
  cases readIndices indices <;> cases ofParts (rest.map Part.text ++ tail) <;> rfl

theorem readHop_of_legible {segment : Segment} (legible : Legible segment) :
    readHop segment = .ok [segment.read] := by
  cases segment with
  | key name =>
    obtain ⟨⟨present, _⟩, numeral⟩ := legible
    have present' : name.toList ≠ [] := by simpa using present
    refine Success.mapError_ok_iff.2 ((ofName_ok_iff ..).2 ⟨fun _ => numeral, ?_⟩)
    rw [nameSegments, List.isEmpty_eq_false_iff.2 present', if_neg Bool.false_ne_true, Segment.read,
      String.ofList_toList]
    split <;> rfl
  | dotted index =>
    have numeral := Text.isNumeral_toDigits legible
    have digits : (Nat.toDigits 10 index).all Text.isDigit = true :=
      List.all_eq_true.2 fun c member => Text.isDigit_of_isDecimal (numeral.decimal c member)
    refine Success.mapError_ok_iff.2 ((ofName_ok_iff ..).2 ⟨fun _ _ => numeral, ?_⟩)
    simp [nameSegments, numeral.present, digits, Segment.read, Text.numeralValue_toDigits]
  | bracket index =>
    refine Success.mapError_ok_iff.2 ((ofIndices_ok_iff ?_ _).2 ⟨?_, ?_⟩)
    · simpa using isIndex_toDigits index
    · exact List.forall_mem_singleton.2 legible
    · simp [Segment.read, Text.numeralValue_toDigits]

theorem readHops_of_legible {segments : List Segment}
    (legible : ∀ segment ∈ segments, Legible segment) :
    readHops segments = .ok (segments.map Segment.read) := by
  induction segments with
  | nil => rfl
  | cons segment segments ih =>
    obtain ⟨first, others⟩ := List.forall_mem_cons.1 legible
    rw [readHops, readHop_of_legible first, ih others]
    rfl

/-- What is written for a path is read as this path. -/
theorem parse_spell {path : Path} (named : IsName path.step)
    (legible : ∀ segment ∈ path.segments, Legible segment) :
    parse (spell path) = .ok ⟨path.step, path.segments.map Segment.read⟩ := by
  have names : ∀ name, .key name ∈ path.segments → IsName name := fun name among =>
    (legible _ among).1
  have dotless : ∀ text ∈ ([] : List (List Char)), '.' ∉ text := by simp
  have whole := parse_hops (by simpa using named.present) named.plain names dotless
  rw [List.flatMap_nil, List.append_nil, ← toList_spell, String.ofList_toList,
    String.ofList_toList, readHops_of_legible legible] at whole
  rw [whole]
  exact congrArg (fun segments => Except.ok (Path.mk path.step segments)) (List.append_nil _)

/-! ### Paths that read as themselves -/

/-- A hop is read as it was where it is written: a key is a name and not digits alone, and an index
is not too long. -/
def Faithful : Segment → Prop
  | .key name => IsName name ∧ name.toList.all Text.isDigit = false
  | .dotted index | .bracket index => (Nat.toDigits 10 index).length ≤ Text.numeralLimit

/-- A path has a name for its step and hops that are read as they were. -/
structure Spellable (path : Path) : Prop where
  step : IsName path.step
  segments : ∀ segment ∈ path.segments, Faithful segment

theorem Faithful.legible {segment : Segment} (faithful : Faithful segment) : Legible segment := by
  cases segment with
  | key name =>
    refine ⟨faithful.1, fun digits => ?_⟩
    rw [faithful.2] at digits
    cases digits
  | dotted index => exact faithful
  | bracket index => exact faithful

theorem Faithful.read_eq {segment : Segment} (faithful : Faithful segment) :
    segment.read = segment := by
  cases segment with
  | key name => rw [Segment.read, faithful.2, if_neg Bool.false_ne_true]
  | dotted index => rfl
  | bracket index => rfl

theorem Spellable.parse_spell_eq {path : Path} (spellable : Spellable path) :
    parse (spell path) = .ok path := by
  have legible : ∀ segment ∈ path.segments, Legible segment := fun segment among =>
    (spellable.segments segment among).legible
  have same : path.segments.map Segment.read = path.segments :=
    calc
      path.segments.map Segment.read = path.segments.map id :=
        List.map_congr_left fun segment among => (spellable.segments segment among).read_eq
      _ = path.segments := List.map_id path.segments
  rw [parse_spell spellable.step legible, same]

/-! ### Paths that were read -/

theorem isName_ofList {name : List Char} (present : name ≠ [])
    (plain : ∀ c ∈ name, c ≠ '.' ∧ isBracket c = false) : IsName (String.ofList name) where
  present := by simpa using present
  plain := by simpa using plain

/-- The indices of a part can be written as they were read. -/
theorem faithful_of_mem_indexSegments {part : Part} {first : Bool} {segment : Segment}
    (proper : part.Proper) (counts : part.Counts first) (member : segment ∈ part.indexSegments) :
    Faithful segment := by
  obtain ⟨digits, among, rfl⟩ := List.mem_map.1 member
  exact (Text.length_toDigits_numeralValue_le (proper.indices digits among).1).trans
    (counts.indices digits among)

theorem faithful_of_mem_segments {part : Part} {segment : Segment} (proper : part.Proper)
    (counts : part.Counts false) (member : segment ∈ part.segments) : Faithful segment := by
  rcases List.mem_append.1 member with named | indexed
  · unfold nameSegments at named
    split at named
    next => cases named
    next present =>
      rw [List.isEmpty_iff] at present
      split at named
      next digits =>
        obtain rfl := List.mem_singleton.1 named
        have numeral := counts.name rfl present digits
        exact (Text.length_toDigits_numeralValue_le present).trans numeral.short
      next letters =>
        obtain rfl := List.mem_singleton.1 named
        exact ⟨isName_ofList present proper.name, by simpa using letters⟩
  · exact faithful_of_mem_indexSegments proper counts indexed

theorem spellable_of_parse {text : String} {path : Path} (read : parse text = .ok path) :
    Spellable path := by
  obtain ⟨head, rest, consists, counted, rfl⟩ := (parse_ok_iff text path).1 read
  have proper : ∀ part ∈ head :: rest, part.Proper :=
    ((List.forall₂_and_left _ _).1 consists.stand).1
  obtain ⟨first, others⟩ := List.forall_mem_cons.1 proper
  refine ⟨isName_ofList consists.named first.name, fun segment member => ?_⟩
  rcases List.mem_append.1 member with indexed | later
  · exact faithful_of_mem_indexSegments first counted.head indexed
  · obtain ⟨part, among, member⟩ := List.mem_flatMap.1 later
    exact faithful_of_mem_segments (others part among) (counted.rest part among) member

/-- Reading undoes writing. What is written for a path is read as this path if its step and keys are
names, no key is digits alone, and no index is too long; every path that is read from a text is of
this kind, in whatever way the text writes it. -/
theorem parse_undoes_spell (path : Path) :
    (Spellable path → parse (spell path) = .ok path) ∧
      ∀ text, parse text = .ok path → Spellable path ∧ parse (spell path) = .ok path := by
  refine ⟨Spellable.parse_spell_eq, fun text read => ?_⟩
  have spellable := spellable_of_parse read
  exact ⟨spellable, spellable.parse_spell_eq⟩

/-- Line feeds in names, a key that begins with a digit, digits of another script, zeros in front
and an index behind a dot. -/
theorem parse_undoes_spell_arabic_digits :
    let path : Path := ⟨"a\n", [.key "0x", .dotted 10, .bracket 0, .key "\n"]⟩
    Spellable path ∧ spell path = "a\n.0x.10[0].\n" ∧ parse (spell path) = .ok path ∧
      parse "a\n.0x.٠١٠.[00].\n" = .ok path := by
  intro path
  have digit : Faithful (.key "0x") := ⟨⟨by decide, by simp [isBracket]⟩, by decide⟩
  have lineFeed : Faithful (.key "\n") := ⟨⟨by decide, by simp [isBracket]⟩, by decide⟩
  have ten : Faithful (.dotted 10) := Nat.le_of_ble_eq_true rfl
  have first : Faithful (.bracket 0) := Nat.le_of_ble_eq_true rfl
  have faithful : ∀ segment ∈ path.segments, Faithful segment := by
    simp only [path, List.forall_mem_cons, List.not_mem_nil, false_imp_iff, implies_true, and_true,
      digit, lineFeed, ten, first]
  have spellable : Spellable path := ⟨⟨by decide, by simp [path, isBracket]⟩, faithful⟩
  have other : parse "a\n.0x.٠١٠.[00].\n" = .ok path := rfl
  obtain ⟨reads, rereads⟩ := parse_undoes_spell path
  exact ⟨(rereads _ other).1, rfl, reads spellable, other⟩

end Path
end Workflow
