/-!
Blank characters and trimming. Two classes are in use: the wide one also counts the four separator
controls U+001C to U+001F, the narrow one is the Unicode White_Space property.
-/
namespace Workflow.Text

/-- Unicode White_Space. -/
def isSpace (c : Char) : Bool :=
  let n := c.toNat
  (9 ≤ n && n ≤ 13) || n == 0x20 || n == 0x85 || n == 0xA0 || n == 0x1680 ||
    (0x2000 ≤ n && n ≤ 0x200A) || n == 0x2028 || n == 0x2029 || n == 0x202F || n == 0x205F ||
    n == 0x3000

/-- White space and the separator controls. -/
def isBlank (c : Char) : Bool :=
  isSpace c || (0x1C ≤ c.toNat && c.toNat ≤ 0x1F)

/-- Drops the characters of a class from the end. -/
def dropEndWhile (p : Char → Bool) (cs : List Char) : List Char :=
  (cs.reverse.dropWhile p).reverse

/-- Drops the characters of a class from both ends. -/
def strip (p : Char → Bool) (cs : List Char) : List Char :=
  dropEndWhile p (cs.dropWhile p)

/-- Removes blanks from both ends of a text. -/
def trim (s : String) : String :=
  String.ofList (strip isBlank s.toList)

/-- Characters of the class around a text are dropped with those at its ends. -/
theorem strip_around {p : Char → Bool} {front back : List Char} (cs : List Char)
    (before : ∀ c ∈ front, p c = true) (behind : ∀ c ∈ back, p c = true) :
    strip p (front ++ (cs ++ back)) = strip p cs := by
  unfold strip dropEndWhile
  rw [List.dropWhile_append_of_pos before, List.dropWhile_append]
  split
  next none =>
    rw [List.isEmpty_iff] at none
    have all : (back ++ []).dropWhile p = [] := List.dropWhile_append_of_pos behind
    rw [List.append_nil] at all
    rw [none, all]
  next => rw [List.reverse_append, List.dropWhile_append_of_pos (by simpa using behind)]

theorem dropWhile_eq_self {p : Char → Bool} {cs : List Char}
    (front : ∀ c ∈ cs.head?, p c = false) : cs.dropWhile p = cs := by
  cases cs with
  | nil => rfl
  | cons c cs =>
    have kept : p c = false := front c rfl
    rw [List.dropWhile_cons, kept]
    rfl

/-- Nothing is dropped before a part that does not end in such characters. -/
theorem dropEndWhile_append_of_last {p : Char → Bool} {front : List Char} (back : List Char)
    (last : ∀ c ∈ front.getLast?, p c = false) :
    dropEndWhile p (front ++ back) = front ++ dropEndWhile p back := by
  have kept : front.reverse.dropWhile p = front.reverse :=
    dropWhile_eq_self (by rwa [List.head?_reverse])
  unfold dropEndWhile
  rw [List.reverse_append, List.dropWhile_append, kept]
  split
  next none =>
    rw [List.isEmpty_iff] at none
    rw [none, List.reverse_reverse, List.reverse_nil, List.append_nil]
  next => rw [List.reverse_append, List.reverse_reverse]

/-- The ends are on both sides of a character that is not of the class. -/
theorem strip_append {p : Char → Bool} {c : Char} (front rest : List Char) (kept : p c = false) :
    strip p (front ++ c :: rest) = front.dropWhile p ++ dropEndWhile p (c :: rest) := by
  have start : (c :: rest).dropWhile p = c :: rest := dropWhile_eq_self (by simpa using kept)
  have whole : (front ++ c :: rest).dropWhile p = front.dropWhile p ++ [c] ++ rest := by
    rw [List.dropWhile_append, start]
    split
    next none => rw [List.isEmpty_iff.1 none]; rfl
    next => simp
  have last : ∀ d ∈ [c].getLast?, p d = false := by simpa using kept
  have behind : dropEndWhile p (c :: rest) = [c] ++ dropEndWhile p rest :=
    dropEndWhile_append_of_last rest last
  rw [strip, whole, dropEndWhile_append_of_last rest (by simpa using kept), behind,
    List.append_assoc]

/-- A text without such characters at its ends stays as it is. -/
theorem strip_eq_self {p : Char → Bool} {cs : List Char} (front : ∀ c ∈ cs.head?, p c = false)
    (back : ∀ c ∈ cs.getLast?, p c = false) : strip p cs = cs := by
  rw [strip, dropWhile_eq_self front, dropEndWhile,
    dropWhile_eq_self (by rwa [List.head?_reverse]), List.reverse_reverse]

end Workflow.Text
