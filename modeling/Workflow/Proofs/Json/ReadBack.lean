import Mathlib.Data.List.TakeWhile
import Workflow.Proofs.Json.Quoted
import Workflow.Proofs.Text.Numeral

/-!
Written JSON reads back. A value of null, booleans, integers that are not too long, texts, lists and
objects is what its JSON text stands for, with blanks behind separators or without.
-/
namespace Workflow

/-- A value that its JSON text tells exactly: no doubles, integers that are not too long to be read,
and objects without a repeated key. -/
inductive Value.Legible : Value → Prop
  | null : Legible .null
  | bool (b : Bool) : Legible (.bool b)
  | int {n : Int} : (Nat.toDigits 10 n.natAbs).length ≤ Text.numeralLimit → Legible (.int n)
  | str (s : String) : Legible (.str s)
  | list {items : List Value} : (∀ item ∈ items, Legible item) → Legible (.list items)
  | dict {entries : List (String × Value)} : (Entries.keys entries).Nodup →
    (∀ entry ∈ entries, Legible entry.2) → Legible (.dict entries)

namespace Json

/-- A style that keeps characters beyond ASCII and has nothing but blanks behind commas and
colons. -/
structure Style.Legible (style : Style) : Prop where
  unescaped : style.asciiOnly = false
  items : ∃ blanks, style.itemSeparator = ',' :: blanks ∧ ∀ c ∈ blanks, c = ' '
  keys : ∃ blanks, style.keySeparator = ':' :: blanks ∧ ∀ c ∈ blanks, c = ' '

theorem legible_spaced : spaced.Legible :=
  ⟨rfl, ⟨[' '], rfl, by simp⟩, ⟨[' '], rfl, by simp⟩⟩

theorem legible_compact : compact.Legible := ⟨rfl, ⟨[], rfl, by simp⟩, ⟨[], rfl, by simp⟩⟩

/-! ### Integers -/

/-- What stands behind a number does not continue it. -/
def Ends (rest : List Char) : Prop :=
  ∀ c ∈ rest.head?, isAsciiDigit c = false ∧ c ≠ '.' ∧ c ≠ 'e' ∧ c ≠ 'E'

theorem isAsciiDigit_of_mem_toDigits {n : Nat} {c : Char} (member : c ∈ Nat.toDigits 10 n) :
    isAsciiDigit c = true := by
  have digit := Nat.isDigit_of_mem_toDigits (by decide) (by decide) member
  simpa [isAsciiDigit, Char.isDigit, Char.le_def] using digit

/-- No decimal form but that of zero begins with a zero. -/
theorem head?_toDigits {n : Nat} (positive : 0 < n) : (Nat.toDigits 10 n).head? ≠ some '0' := by
  induction n using Nat.strongRecOn with
  | ind n ih =>
    by_cases small : n < 10
    · have digit : ∀ d < 10, 0 < d → d.digitChar ≠ '0' := by decide
      rw [Nat.toDigits_of_lt_base small]
      simpa using digit n small positive
    · have front : 0 < n / 10 := by omega
      have whole : Nat.toDigits 10 n = Nat.toDigits 10 (n / 10) ++ Nat.toDigits 10 (n % 10) := by
        rw [Nat.toDigits_append_toDigits (by decide) front (by omega), Nat.div_add_mod]
      rw [whole, List.head?_append_of_ne_nil _ Nat.toDigits_ne_nil]
      exact ih (n / 10) (by omega) front

theorem wholeDigits_toDigits (n : Nat) {rest : List Char} (ends : Ends rest) :
    wholeDigits (Nat.toDigits 10 n ++ rest) = Nat.toDigits 10 n := by
  by_cases zero : n = 0
  · subst zero
    rfl
  · have first := head?_toDigits (Nat.pos_of_ne_zero zero)
    have behind : rest.takeWhile isAsciiDigit = [] := by
      cases rest with
      | nil => rfl
      | cons c rest => simp [(ends c rfl).1]
    have taken : (Nat.toDigits 10 n ++ rest).takeWhile isAsciiDigit = Nat.toDigits 10 n := by
      rw [List.takeWhile_append_of_pos fun c => isAsciiDigit_of_mem_toDigits, behind,
        List.append_nil]
    unfold wholeDigits
    split
    next same =>
      refine absurd ?_ first
      rw [← List.head?_append_of_ne_nil _ Nat.toDigits_ne_nil, same, List.head?_cons]
    next => exact taken

/-- The decimal form of an integer. -/
def integerChars (negative : Bool) (size : Nat) : List Char :=
  (if negative then ['-'] else []) ++ Nat.toDigits 10 size

theorem fractionPart?_of_ends {rest : List Char} (ends : Ends rest) :
    fractionPart? rest = none := by
  unfold fractionPart?
  split
  next => exact absurd rfl (ends '.' rfl).2.1
  next => rfl

theorem exponentPart?_of_ends {rest : List Char} (ends : Ends rest) :
    exponentPart? rest = none := by
  cases rest with
  | nil => rfl
  | cons c rest =>
    obtain ⟨_, _, small, capital⟩ := ends c rfl
    simp [exponentPart?, small, capital]

/-- The decimal form of an integer is read as this integer. -/
theorem number_integerChars (negative : Bool) {size : Nat} {rest : List Char}
    (short : (Nat.toDigits 10 size).length ≤ Text.numeralLimit) (ends : Ends rest) :
    number (integerChars negative size ++ rest) =
      .ok (.int (if negative then -size else size), rest) := by
  have present : Nat.toDigits 10 size ≠ [] := Nat.toDigits_ne_nil
  have sign : ((integerChars negative size ++ rest).head? == some '-') = negative := by
    cases negative with
    | true => rfl
    | false =>
      obtain ⟨c, digits, same⟩ := List.exists_cons_of_ne_nil present
      have digit : isAsciiDigit c = true :=
        isAsciiDigit_of_mem_toDigits (by rw [same]; exact .head _)
      have other : c ≠ '-' := by
        rintro rfl
        cases digit
      simp [integerChars, same, other]
  have unsigned : (if negative then (integerChars negative size ++ rest).drop 1
      else integerChars negative size ++ rest) = Nat.toDigits 10 size ++ rest := by
    cases negative <;> rfl
  unfold number
  simp only [sign, unsigned, wholeDigits_toDigits size ends, List.drop_left,
    fractionPart?_of_ends ends, Option.elim_none, exponentPart?_of_ends ends,
    List.isEmpty_eq_false_iff.2 present, Bool.false_eq_true, if_false,
    if_neg (Nat.not_lt.2 short), Text.numeralValue_toDigits]

/-! ### Scalars -/

/-- What stands at the start of a written value: no blank, nothing that closes a list, and no byte
order mark. -/
def Opens (cs : List Char) : Prop :=
  ∃ c rest, cs = c :: rest ∧ isJsonSpace c = false ∧ c ≠ ']' ∧ c ≠ Char.ofNat 0xFEFF

/-- A value is read where it is written. -/
structure ReadsBack (style : Style) (v : Value) : Prop where
  opens : Opens (chars style v)
  reads : ∀ fuel rest, 2 * (chars style v).length ≤ fuel → Ends rest →
    value fuel (chars style v ++ rest) = .ok (v, rest)

theorem ne_of_isAsciiDigit {c d : Char} (digit : isAsciiDigit c = true)
    (other : isAsciiDigit d = false) : c ≠ d := by
  rintro rfl
  rw [digit] at other
  cases other

/-- The decimal form of an integer begins with a digit, behind its sign if it has one. -/
theorem exists_integerChars (negative : Bool) (size : Nat) : ∃ c rest, isAsciiDigit c = true ∧
    integerChars negative size = if negative then '-' :: c :: rest else c :: rest := by
  obtain ⟨c, rest, same⟩ := List.exists_cons_of_ne_nil (Nat.toDigits_ne_nil (n := size) (b := 10))
  have digit : isAsciiDigit c = true := isAsciiDigit_of_mem_toDigits (by rw [same]; exact .head _)
  exact ⟨c, rest, digit, by cases negative <;> simp [integerChars, same]⟩

/-- What begins with a character of no quote and no bracket is a word or a number. -/
theorem value_scalar {c : Char} (quote : c ≠ '"') (array : c ≠ '[') (object : c ≠ '{') (fuel : Nat)
    (rest : List Char) : value (fuel + 1) (c :: rest) = scalar (c :: rest) := by
  rw [value, if_neg quote, if_neg array, if_neg object]

theorem value_integerChars (negative : Bool) (size fuel : Nat) (rest : List Char) :
    value (fuel + 1) (integerChars negative size ++ rest) =
      number (integerChars negative size ++ rest) := by
  obtain ⟨c, digits, digit, same⟩ := exists_integerChars negative size
  have other (d : Char) (apart : isAsciiDigit d = false) : c ≠ d := ne_of_isAsciiDigit digit apart
  rw [same]
  cases negative with
  | true =>
    have noWord : words.find? (fun word => word.1.isPrefixOf ('-' :: c :: (digits ++ rest))) =
        none := by
      simp [words, List.isPrefixOf, (other 'I' rfl).symm]
    change value (fuel + 1) ('-' :: c :: (digits ++ rest)) = number ('-' :: c :: (digits ++ rest))
    rw [value_scalar (by decide) (by decide) (by decide), scalar, noWord]
  | false =>
    have noWord : words.find? (fun word => word.1.isPrefixOf (c :: (digits ++ rest))) = none := by
      simp [words, List.isPrefixOf, (other 'n' rfl).symm, (other 't' rfl).symm,
        (other 'f' rfl).symm, (other 'N' rfl).symm, (other 'I' rfl).symm, (other '-' rfl).symm]
    change value (fuel + 1) (c :: (digits ++ rest)) = number (c :: (digits ++ rest))
    rw [value_scalar (other '"' rfl) (other '[' rfl) (other '{' rfl), scalar, noWord]

theorem toList_toString (n : Int) : (toString n).toList = integerChars (n < 0) n.natAbs := by
  cases n with
  | ofNat m =>
    change (toString m).toList = _
    simp [integerChars]
  | negSucc m =>
    change ("-" ++ toString (m + 1)).toList = _
    simp [integerChars]

variable {style : Style}

theorem readsBack_of_opens {v : Value} (opens : Opens (chars style v))
    (reads : ∀ fuel rest, 2 * (chars style v).length ≤ fuel + 1 → Ends rest →
      value (fuel + 1) (chars style v ++ rest) = .ok (v, rest)) : ReadsBack style v where
  opens := opens
  reads fuel rest enough ends := by
    obtain ⟨c, more, same, _⟩ := opens
    have present : 0 < (chars style v).length := by simp [same]
    obtain ⟨fuel, rfl⟩ : ∃ less, fuel = less + 1 := ⟨fuel - 1, by omega⟩
    exact reads fuel rest enough ends

theorem readsBack_null : ReadsBack style .null :=
  readsBack_of_opens ⟨'n', _, rfl, by decide, by decide, by decide⟩ fun _ _ _ _ => rfl

theorem readsBack_bool (b : Bool) : ReadsBack style (.bool b) := by
  cases b with
  | true =>
    exact readsBack_of_opens ⟨'t', _, rfl, by decide, by decide, by decide⟩ fun _ _ _ _ => rfl
  | false =>
    exact readsBack_of_opens ⟨'f', _, rfl, by decide, by decide, by decide⟩ fun _ _ _ _ => rfl

theorem readsBack_int {n : Int} (short : (Nat.toDigits 10 n.natAbs).length ≤ Text.numeralLimit) :
    ReadsBack style (.int n) := by
  have written : chars style (.int n) = integerChars (n < 0) n.natAbs := toList_toString n
  refine readsBack_of_opens ?_ fun fuel rest _ ends => ?_
  · obtain ⟨c, digits, digit, same⟩ := exists_integerChars (n < 0) n.natAbs
    rw [written, same]
    split
    next => exact ⟨'-', _, rfl, by decide, by decide, by decide⟩
    next =>
      have other (d : Char) (apart : isAsciiDigit d = false) : c ≠ d :=
        ne_of_isAsciiDigit digit apart
      refine ⟨c, digits, rfl, ?_, other ']' rfl, other _ rfl⟩
      simp [isJsonSpace, other ' ' rfl, other '\t' rfl, other '\n' rfl, other '\r' rfl]
  · have value : (if decide (n < 0) = true then -(n.natAbs : Int) else n.natAbs) = n := by
      simp only [decide_eq_true_eq]
      omega
    rw [written, value_integerChars, number_integerChars _ short ends, value]

theorem readsBack_str (unescaped : style.asciiOnly = false) (s : String) :
    ReadsBack style (.str s) := by
  have written : chars style (.str s) =
      '"' :: (s.toList.flatMap (charText false) ++ ['"']) := by
    rw [chars, unescaped, stringText, List.cons_append]
  refine readsBack_of_opens ⟨'"', _, written, by decide, by decide, by decide⟩
    fun fuel rest enough _ => ?_
  rw [written, List.length_cons, List.length_append] at enough
  rw [written, List.cons_append, List.append_assoc, value, if_pos rfl, List.singleton_append,
    stringBody_flatMap _ rest (by omega)]
  exact congrArg (fun text => Except.ok (Value.str text, rest)) String.ofList_toList

/-! ### Lists -/

theorem skipSpace_of_opens {cs : List Char} (opens : Opens cs) {blanks : List Char}
    (blank : ∀ c ∈ blanks, c = ' ') (rest : List Char) :
    skipSpace (blanks ++ (cs ++ rest)) = cs ++ rest := by
  obtain ⟨c, cs, rfl, space, _⟩ := opens
  have skipped : ∀ d ∈ blanks, isJsonSpace d = true := fun d member => by rw [blank d member]; rfl
  rw [skipSpace, List.dropWhile_append_of_pos skipped, List.cons_append, List.dropWhile_cons, space]
  rfl

theorem itemChars_cons_cons (style : Style) (first second : Value) (more : List Value) :
    itemChars style (first :: second :: more) =
      chars style first ++ (style.itemSeparator ++ itemChars style (second :: more)) := by
  rw [itemChars, List.append_assoc]
  simp

theorem itemChars_opens {first : Value} (opens : Opens (chars style first)) (more : List Value) :
    Opens (itemChars style (first :: more)) := by
  obtain ⟨c, rest, same, apart⟩ := opens
  cases more with
  | nil => exact ⟨c, rest, by rw [itemChars, same], apart⟩
  | cons second more =>
    exact ⟨c, _, by rw [itemChars_cons_cons, same, List.cons_append], apart⟩

theorem ends_of_mark {mark : Char} {rest : List Char} (apart : mark ∈ [',', ']', '}']) :
    Ends (mark :: rest) := by
  simp only [List.mem_cons, List.not_mem_nil, or_false] at apart
  rintro c ⟨⟩
  rcases apart with rfl | rfl | rfl <;> decide

/-- The items of a list are read where they are written, up to the closing bracket. -/
theorem items_itemChars (legible : style.Legible) {first : Value} {more : List Value}
    (each : ∀ item ∈ first :: more, ReadsBack style item) (fuel : Nat) (rest : List Char)
    (enough : 2 * (itemChars style (first :: more)).length + 1 ≤ fuel) :
    items fuel (itemChars style (first :: more) ++ ']' :: rest) = .ok (first :: more, rest) := by
  induction more generalizing first fuel with
  | nil =>
    obtain ⟨fuel, rfl⟩ : ∃ less, fuel = less + 1 := ⟨fuel - 1, by omega⟩
    rw [itemChars] at enough
    have read := (each first (by simp)).reads fuel (']' :: rest) (by omega)
      (ends_of_mark (by decide))
    rw [itemChars, items, read]
    rfl
  | cons second more ih =>
    obtain ⟨blanks, separator, blank⟩ := legible.items
    obtain ⟨here, later⟩ := List.forall_mem_cons.1 each
    rw [itemChars_cons_cons, separator, List.length_append, List.length_append,
      List.length_cons] at enough
    obtain ⟨fuel, rfl⟩ : ∃ less, fuel = less + 1 := ⟨fuel - 1, by omega⟩
    have written : itemChars style (first :: second :: more) ++ ']' :: rest = chars style first ++
        ',' :: (blanks ++ (itemChars style (second :: more) ++ ']' :: rest)) := by
      rw [itemChars_cons_cons, separator]
      simp
    have read := here.reads fuel
      (',' :: (blanks ++ (itemChars style (second :: more) ++ ']' :: rest))) (by omega)
      (ends_of_mark (by decide))
    have opens := itemChars_opens (later second (by simp)).opens more
    have skipped := skipSpace_of_opens opens blank (']' :: rest)
    rw [written, items, read]
    change (items fuel (skipSpace (blanks ++ _)) >>= fun others =>
      .ok (first :: others.1, others.2)) = _
    rw [skipped, ih later fuel (by omega)]
    rfl

theorem value_array {inside : List Char} (opens : Opens inside) (fuel : Nat) (rest : List Char) :
    value (fuel + 1) ('[' :: (inside ++ rest)) =
      (fun read => (.list read.1, read.2)) <$> items fuel (inside ++ rest) := by
  have skipped := skipSpace_of_opens opens (List.forall_mem_nil (· = ' ')) rest
  obtain ⟨c, inside, rfl, _, open', _⟩ := opens
  rw [List.nil_append] at skipped
  rw [value, if_neg (by decide), if_pos rfl, skipped, List.cons_append]
  split
  next closed => exact absurd (List.cons.inj closed).1 open'
  next => cases items fuel (c :: (inside ++ rest)) <;> rfl

theorem readsBack_list (legible : style.Legible) {found : List Value}
    (each : ∀ item ∈ found, ReadsBack style item) : ReadsBack style (.list found) := by
  have written : chars style (.list found) = '[' :: (itemChars style found ++ [']']) := by
    rw [chars, List.cons_append]
  refine readsBack_of_opens ⟨'[', _, written, by decide, by decide, by decide⟩
    fun fuel rest enough _ => ?_
  cases found with
  | nil => rfl
  | cons first more =>
    rw [written, List.length_cons, List.length_append] at enough
    have opens := itemChars_opens (each first List.mem_cons_self).opens more
    have read := items_itemChars legible each fuel rest (by omega)
    rw [written, List.cons_append, List.append_assoc, value_array opens, List.singleton_append,
      read]
    rfl

/-! ### Objects -/

/-- The characters of one entry. -/
def entryText (style : Style) (entry : String × Value) : List Char :=
  stringText style.asciiOnly entry.1 ++ (style.keySeparator ++ chars style entry.2)

theorem entryChars_singleton (style : Style) (entry : String × Value) :
    entryChars style [entry] = entryText style entry := by
  rw [entryChars, entryText, List.append_assoc]

theorem entryChars_cons_cons (style : Style) (first second : String × Value)
    (more : List (String × Value)) :
    entryChars style (first :: second :: more) =
      entryText style first ++ (style.itemSeparator ++ entryChars style (second :: more)) := by
  rw [entryChars, entryText]
  · simp
  · simp

/-- Entries begin with the quote of a key. -/
theorem exists_entryChars (style : Style) (first : String × Value) (more : List (String × Value)) :
    ∃ rest, entryChars style (first :: more) = '"' :: rest := by
  cases more with
  | nil => exact ⟨_, by rw [entryChars_singleton, entryText, stringText]; rfl⟩
  | cons second more => exact ⟨_, by rw [entryChars_cons_cons, entryText, stringText]; rfl⟩

theorem entryChars_opens (style : Style) (first : String × Value) (more : List (String × Value)) :
    Opens (entryChars style (first :: more)) := by
  obtain ⟨rest, same⟩ := exists_entryChars style first more
  exact ⟨'"', rest, same, by decide, by decide, by decide⟩

theorem fresh_of_nodup {before more : List (String × Value)} {first : String × Value}
    (distinct : (Entries.keys (before ++ first :: more)).Nodup) :
    first.1 ∉ Entries.keys before := by
  intro member
  rw [Entries.keys, List.map_append, List.nodup_append] at distinct
  exact distinct.2.2 first.1 member first.1 (by simp) rfl

/-- An entry is read where it is written, behind those that were read before. -/
theorem members_entryText (legible : style.Legible) {before : List (String × Value)}
    {entry : String × Value} (fresh : entry.1 ∉ Entries.keys before)
    (inner : ReadsBack style entry.2) {fuel : Nat} {behind : List Char} (ends : Ends behind)
    (enough : 2 * (entryText style entry).length ≤ fuel) :
    members (fuel + 1) before (entryText style entry ++ behind) =
      match skipSpace behind with
      | '}' :: after => .ok (before ++ [entry], after)
      | ',' :: after => members fuel (before ++ [entry]) (skipSpace after)
      | unexpected => .error (.fault .expectedComma unexpected) := by
  obtain ⟨key, v⟩ := entry
  have inner : ReadsBack style v := inner
  obtain ⟨blanks, separator, blank⟩ := legible.keys
  have written : entryText style (key, v) ++ behind = '"' :: (key.toList.flatMap (charText false) ++
      '"' :: ':' :: (blanks ++ (chars style v ++ behind))) := by
    simp [entryText, legible.unescaped, stringText, separator]
  simp only [entryText, legible.unescaped, separator, stringText, List.length_append,
    List.length_cons] at enough
  have name : stringBody (entryText style (key, v) ++ behind) (fuel + 1)
      (key.toList.flatMap (charText false) ++ '"' :: ':' :: (blanks ++ (chars style v ++ behind))) =
        .ok (key.toList, ':' :: (blanks ++ (chars style v ++ behind))) :=
    stringBody_flatMap _ _ (by omega)
  have read := inner.reads fuel behind (by omega) ends
  rw [written] at name ⊢
  rw [members, name]
  have colon : skipSpace (':' :: (blanks ++ (chars style v ++ behind))) =
      ':' :: (blanks ++ (chars style v ++ behind)) := rfl
  simp only [bind, Except.bind, colon, skipSpace_of_opens inner.opens blank, read,
    String.ofList_toList, Entries.put_of_not_mem key v before fresh]
  rfl

/-- The entries of an object are read behind those that were read before, up to the closing
brace. -/
theorem members_entryChars (legible : style.Legible) {before : List (String × Value)}
    {first : String × Value} {more : List (String × Value)}
    (each : ∀ entry ∈ first :: more, ReadsBack style entry.2)
    (distinct : (Entries.keys (before ++ first :: more)).Nodup) {fuel : Nat} (rest : List Char)
    (enough : 2 * (entryChars style (first :: more)).length + 1 ≤ fuel) :
    members fuel before (entryChars style (first :: more) ++ '}' :: rest) =
      .ok (before ++ first :: more, rest) := by
  induction more generalizing before first fuel with
  | nil =>
    have fresh := fresh_of_nodup distinct
    rw [entryChars_singleton] at enough ⊢
    obtain ⟨fuel, rfl⟩ : ∃ less, fuel = less + 1 := ⟨fuel - 1, by omega⟩
    rw [members_entryText legible fresh (each first List.mem_cons_self)
      (ends_of_mark (by decide)) (by omega)]
    rfl
  | cons second more ih =>
    obtain ⟨blanks, separator, blank⟩ := legible.items
    obtain ⟨here, later⟩ := List.forall_mem_cons.1 each
    have fresh := fresh_of_nodup distinct
    rw [entryChars_cons_cons, separator, List.length_append, List.length_append,
      List.length_cons] at enough
    obtain ⟨fuel, rfl⟩ : ∃ less, fuel = less + 1 := ⟨fuel - 1, by omega⟩
    have written : entryChars style (first :: second :: more) ++ '}' :: rest =
        entryText style first ++
          ',' :: (blanks ++ (entryChars style (second :: more) ++ '}' :: rest)) := by
      rw [entryChars_cons_cons, separator]
      simp
    have together : before ++ first :: second :: more = before ++ [first] ++ second :: more := by
      simp
    rw [written, members_entryText legible fresh here (ends_of_mark (by decide)) (by omega)]
    change members fuel (before ++ [first]) (skipSpace (blanks ++ _)) = _
    rw [skipSpace_of_opens (entryChars_opens style second more) blank, together]
    exact ih later (together ▸ distinct) (by omega)

theorem value_object (inside : List Char) (fuel : Nat) :
    value (fuel + 1) ('{' :: '"' :: inside) =
      (fun read => (.dict read.1, read.2)) <$> members fuel [] ('"' :: inside) := by
  rw [value, if_neg (by decide), if_neg (by decide), if_pos rfl]
  change (members fuel [] ('"' :: inside) >>= fun found =>
    .ok (Value.dict found.1, found.2)) = _
  cases members fuel [] ('"' :: inside) <;> rfl

theorem readsBack_dict (legible : style.Legible) {entries : List (String × Value)}
    (distinct : (Entries.keys entries).Nodup)
    (each : ∀ entry ∈ entries, ReadsBack style entry.2) : ReadsBack style (.dict entries) := by
  have written : chars style (.dict entries) = '{' :: (entryChars style entries ++ ['}']) := by
    rw [chars, List.cons_append]
  refine readsBack_of_opens ⟨'{', _, written, by decide, by decide, by decide⟩
    fun fuel rest enough _ => ?_
  cases entries with
  | nil => rfl
  | cons first more =>
    rw [written, List.length_cons, List.length_append] at enough
    obtain ⟨inside, same⟩ := exists_entryChars style first more
    have read : members fuel [] (entryChars style (first :: more) ++ '}' :: rest) =
        .ok (first :: more, rest) := members_entryChars legible each distinct rest (by omega)
    rw [same, List.cons_append] at read
    rw [written, List.cons_append, List.append_assoc, List.singleton_append, same, List.cons_append,
      value_object, read]
    rfl

/-- A legible value is read where it is written. -/
theorem readsBack_of_legible (legible : style.Legible) {v : Value} (plain : v.Legible) :
    ReadsBack style v := by
  induction plain with
  | null => exact readsBack_null
  | bool b => exact readsBack_bool b
  | int short => exact readsBack_int short
  | str s => exact readsBack_str legible.unescaped s
  | list _ ih => exact readsBack_list legible ih
  | dict distinct _ ih => exact readsBack_dict legible distinct ih

/-- Reading undoes writing. -/
theorem parse_write (legible : style.Legible) {v : Value} (plain : v.Legible) :
    parse (write style v) = .ok v := by
  obtain ⟨opens, reads⟩ := readsBack_of_legible legible plain
  have read := reads (2 * (chars style v).length + 2) [] (by omega) nofun
  have start := skipSpace_of_opens opens (List.forall_mem_nil (· = ' ')) []
  rw [List.nil_append, List.append_nil] at start
  rw [List.append_nil] at read
  have whole : document (chars style v) = .ok v := by
    obtain ⟨c, rest, same, _, _, mark⟩ := opens
    have unmarked : ((chars style v).head? == some (Char.ofNat 0xFEFF)) = false := by
      rw [same]
      simpa using mark
    rw [document, unmarked, if_neg Bool.false_ne_true, start, read]
    rfl
  rw [parse, write, String.toList_ofList, whole]
  rfl

end Json
end Workflow
