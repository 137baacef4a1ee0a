import Workflow.Json.Reader
import Workflow.Json.Writer
import Workflow.Proofs.Success

/-!
Quoted texts of JSON. What is written for a character, escaped or as it stands, is read as this
character, so a quoted text reads as the text that was quoted. No control character is left in it.
-/
namespace Workflow.Json

/-! ### Hexadecimal digits -/

theorem hexValue?_hexDigit : ∀ digit < 16, hexValue? (Text.hexDigit digit) = some digit := by
  decide

/-- Four hexadecimal digits tell a number that has no more. -/
theorem hexUnit?_hexDigits {n : Nat} (short : n < 0x10000) :
    hexUnit? (Text.hexDigits 4 n) = some n := by
  have digit (m : Nat) : hexValue? (Text.hexDigit (m % 16)) = some (m % 16) :=
    hexValue?_hexDigit _ (Nat.mod_lt m (by decide))
  simp only [Text.hexDigits, hexUnit?, List.nil_append, List.cons_append, List.foldl_cons,
    List.foldl_nil, Option.bind_some, digit, Option.map_some, Option.some.injEq]
  omega

theorem unicodeUnit_hexDigits {n : Nat} (short : n < 0x10000) {rest : List Char}
    (more : rest ≠ []) : unicodeUnit ('u' :: (Text.hexDigits 4 n ++ rest)) = .ok (n, rest) := by
  obtain ⟨c, rest, rfl⟩ := List.exists_cons_of_ne_nil more
  have digits : (('u' :: (Text.hexDigits 4 n ++ c :: rest)).drop 1).take 4 =
      Text.hexDigits 4 n := rfl
  have behind : ('u' :: (Text.hexDigits 4 n ++ c :: rest)).drop 5 = c :: rest := rfl
  unfold unicodeUnit
  simp only [digits, behind, hexUnit?_hexDigits short]
  rfl

/-! ### Characters -/

/-- An escaped control character reads as this character. -/
theorem unicodeEscaped_hexDigits {c : Char} (control : c.toNat < 0x20) {rest : List Char}
    (more : rest ≠ []) :
    unicodeEscaped ('u' :: (Text.hexDigits 4 c.toNat ++ rest)) = .ok (c, rest) := by
  have unit := unicodeUnit_hexDigits (n := c.toNat) (by omega) more
  have high : isHighSurrogate c.toNat = false := by
    simp only [isHighSurrogate, Bool.and_eq_false_iff, decide_eq_false_iff_not]
    omega
  have low : isLowSurrogate c.toNat = false := by
    simp only [isLowSurrogate, Bool.and_eq_false_iff, decide_eq_false_iff_not]
    omega
  unfold unicodeEscaped
  rw [unit]
  simp [bind, Except.bind, pure, Except.pure, high, low, scalarChar]

/-- What can be written for a character: a short escape, the escape of a control character, or the
character itself. -/
inductive Writes (c : Char) : List Char → Prop
  | short {mark : Char} : simpleEscape? mark = some c → 0x20 ≤ mark.toNat → Writes c ['\\', mark]
  | control : c.toNat < 0x20 → Writes c (unicodeEscape c.toNat)
  | plain : c ≠ '"' → c ≠ '\\' → 0x20 ≤ c.toNat → Writes c [c]

theorem writes_charText (c : Char) : Writes c (charText false c) := by
  have point (n : Nat) (same : c.toNat = n) : c = Char.ofNat n := by rw [← same, Char.ofNat_toNat]
  unfold charText
  split
  · subst c
    exact .short rfl (by decide)
  split
  · subst c
    exact .short rfl (by decide)
  split
  · subst c
    exact .short rfl (by decide)
  split
  · subst c
    exact .short rfl (by decide)
  split
  · subst c
    exact .short rfl (by decide)
  split
  next feed => exact point 12 feed ▸ .short rfl (by decide)
  split
  next back => exact point 8 back ▸ .short rfl (by decide)
  split
  next unprintable =>
    have control : c.toNat < 0x20 := by simpa using unprintable
    have point : Text.codePoint c = c.toNat := by
      simp only [Text.codePoint, Text.isSurrogate, decide_eq_true_eq]
      exact if_neg (by omega)
    rw [point, escapedPoint, if_pos (by omega)]
    exact .control control
  next quote backslash _ _ _ _ _ printable =>
    exact .plain quote backslash (by simpa using printable)

theorem Writes.ne_nil {c : Char} {text : List Char} (writes : Writes c text) : text ≠ [] := by
  cases writes <;> simp [unicodeEscape]

/-- A backslash and what it escapes are read as one character. -/
theorem stringBody_escape {opening cs after : List Char} {c : Char}
    (read : escaped opening ('\\' :: cs) = .ok (c, after)) (fuel : Nat) :
    stringBody opening (fuel + 1) ('\\' :: cs) =
      (fun body => (c :: body.1, body.2)) <$> stringBody opening fuel after := by
  rw [stringBody, if_neg (by decide), if_pos rfl, read]
  change (stringBody opening fuel after >>= fun body => .ok (c :: body.1, body.2)) = _
  cases stringBody opening fuel after <;> rfl

/-- What is written for a character is read as this character. -/
theorem Writes.stringBody_eq {c : Char} {text rest : List Char} (writes : Writes c text)
    (more : rest ≠ []) (opening : List Char) (fuel : Nat) :
    stringBody opening (fuel + 1) (text ++ rest) =
      (fun body => (c :: body.1, body.2)) <$> stringBody opening fuel rest := by
  cases writes with
  | @short mark simple _ =>
    have other : mark ≠ 'u' := by
      rintro rfl
      cases simple
    have read : escaped opening ('\\' :: mark :: rest) = .ok (c, rest) := by
      simp [escaped, other, simple]
    exact stringBody_escape read fuel
  | control small =>
    have read : escaped opening ('\\' :: 'u' :: (Text.hexDigits 4 c.toNat ++ rest)) =
        .ok (c, rest) := unicodeEscaped_hexDigits small more
    exact stringBody_escape read fuel
  | plain quote backslash printable =>
    rw [List.singleton_append, stringBody, if_neg quote, if_neg backslash,
      if_neg (Nat.not_lt.2 printable)]
    cases stringBody opening fuel rest <;> rfl

/-! ### Texts -/

/-- The characters that are written for a text are read as this text, up to the quote behind
them. -/
theorem stringBody_flatMap (opening rest : List Char) {cs : List Char} {fuel : Nat}
    (enough : (cs.flatMap (charText false)).length < fuel) :
    stringBody opening fuel (cs.flatMap (charText false) ++ '"' :: rest) = .ok (cs, rest) := by
  induction cs generalizing fuel with
  | nil =>
    obtain ⟨fuel, rfl⟩ := Nat.exists_eq_add_one_of_ne_zero (Nat.ne_of_gt enough)
    rfl
  | cons c cs ih =>
    have writes := writes_charText c
    have some := List.length_pos_iff.2 writes.ne_nil
    rw [List.flatMap_cons, List.length_append] at enough
    obtain ⟨fuel, rfl⟩ : ∃ less, fuel = less + 1 := ⟨fuel - 1, by omega⟩
    rw [List.flatMap_cons, List.append_assoc, writes.stringBody_eq (by simp), ih (by omega)]
    rfl

/-! ### Control characters -/

/-- No control character is among some characters. -/
def Printable (cs : List Char) : Prop := ∀ c ∈ cs, 0x20 ≤ c.toNat

theorem printable_cons {c : Char} {rest : List Char} (first : 0x20 ≤ c.toNat)
    (later : Printable rest) : Printable (c :: rest) :=
  List.forall_mem_cons.2 ⟨first, later⟩

theorem printable_append {front back : List Char} (first : Printable front)
    (later : Printable back) : Printable (front ++ back) :=
  fun c member => (List.mem_append.1 member).elim (first c) (later c)

theorem printable_hexDigits (width n : Nat) : Printable (Text.hexDigits width n) := by
  have digit : ∀ d < 16, 0x20 ≤ (Text.hexDigit d).toNat := by decide
  induction width generalizing n with
  | zero => simp [Printable, Text.hexDigits]
  | succ width ih =>
    refine printable_append (ih (n / 16)) ?_
    simpa [Printable] using digit (n % 16) (Nat.mod_lt n (by decide))

theorem Writes.printable {c : Char} {text : List Char} (writes : Writes c text) :
    Printable text := by
  cases writes with
  | short _ mark => simpa [Printable] using mark
  | control small =>
    have opening : Printable ['\\', 'u'] := by simp [Printable]
    exact printable_append opening (printable_hexDigits 4 c.toNat)
  | plain _ _ printable => simpa [Printable] using printable

theorem printable_stringText (s : String) : Printable (stringText false s) := by
  intro c member
  simp only [stringText, List.mem_append, List.mem_cons, List.not_mem_nil, or_false,
    List.mem_flatMap] at member
  obtain (rfl | ⟨d, _, member⟩) | rfl := member
  · decide
  · exact (writes_charText d).printable c member
  · decide

end Workflow.Json
