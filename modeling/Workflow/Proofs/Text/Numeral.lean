import Mathlib.Data.List.Basic
import Mathlib.Data.List.Induction
import Mathlib.Data.List.TakeWhile
import Workflow.Text.Digit

/-!
Numerals. A text is read as a number exactly if it is a numeral of decimal digits within the limit,
and the decimal form of a number is such a numeral for it, unless it is too long. No numeral of a
number is shorter than its decimal form.
-/
namespace Workflow.Text

/-- One or more decimal digits, not more than are read. -/
structure IsNumeral (digits : List Char) : Prop where
  present : digits ≠ []
  decimal : ∀ c ∈ digits, isDecimal c = true
  short : digits.length ≤ numeralLimit

theorem isDigit_of_isDecimal {c : Char} (decimal : isDecimal c = true) : isDigit c = true := by
  simp [isDigit, decimal]

theorem readNumeral_ok_iff (text : List Char) (n : Nat) :
    readNumeral text = .ok n ↔ IsNumeral text ∧ n = numeralValue text := by
  have whole :
      (text.takeWhile isDecimal).length = text.length ↔ ∀ c ∈ text, isDecimal c = true := by
    constructor
    · intro same c member
      have kept := (List.takeWhile_prefix isDecimal (l := text)).eq_of_length same
      rw [← kept] at member
      exact List.mem_takeWhile_imp member
    · intro decimal
      rw [List.takeWhile_eq_self_iff.2 decimal]
  unfold readNumeral
  dsimp only
  split
  next long =>
    simp only [reduceCtorEq, false_iff, not_and]
    intro numeral
    have all := whole.2 numeral.decimal
    have short := numeral.short
    omega
  next short =>
    split
    next counted =>
      simp only [Bool.and_eq_true, decide_eq_true_eq, Bool.not_eq_true', List.isEmpty_eq_false_iff]
        at counted
      have decimal := whole.1 counted.1
      rw [List.takeWhile_eq_self_iff.2 decimal, Except.ok.injEq]
      have numeral : IsNumeral text := ⟨counted.2, decimal, by omega⟩
      exact ⟨fun same => ⟨numeral, same.symm⟩, fun ⟨_, same⟩ => same.symm⟩
    next refused =>
      simp only [reduceCtorEq, false_iff, not_and]
      intro numeral
      exfalso
      apply refused
      simp [whole.2 numeral.decimal, numeral.present]

/-! ### Decimal forms -/

theorem toNat_of_isDigit {c : Char} (digit : c.isDigit = true) :
    0x30 ≤ c.toNat ∧ c.toNat ≤ 0x39 := by
  simp only [Char.isDigit, Bool.and_eq_true, decide_eq_true_eq, UInt32.le_iff_toNat_le] at digit
  exact digit

theorem decimalValue?_of_isDigit {c : Char} (digit : c.isDigit = true) :
    decimalValue? c = some (c.toNat - '0'.toNat) := by
  obtain ⟨first, last⟩ := toNat_of_isDigit digit
  have bounds : 0x30 ≤ c.toNat ∧ c.toNat < 0x30 + 10 := ⟨first, Nat.lt_succ_of_le last⟩
  simp [decimalValue?, decimalZeros, bounds]

theorem isDecimal_of_mem_toDigits {n : Nat} {c : Char} (member : c ∈ Nat.toDigits 10 n) :
    isDecimal c = true := by
  rw [isDecimal,
    decimalValue?_of_isDigit (Nat.isDigit_of_mem_toDigits (by decide) (by decide) member)]
  rfl

theorem numeralValue_eq_ofDigitChars {digits : List Char} (ascii : ∀ c ∈ digits, c.isDigit = true) :
    numeralValue digits = Nat.ofDigitChars 10 digits 0 := by
  have step (init : Nat) : digits.foldl (fun n c => 10 * n + (decimalValue? c).getD 0) init =
      digits.foldl (fun n c => 10 * n + (c.toNat - '0'.toNat)) init := by
    refine List.foldl_ext _ _ init fun n c member => ?_
    rw [decimalValue?_of_isDigit (ascii c member), Option.getD_some]
  exact step 0

/-- A number is the value of its decimal form. -/
theorem numeralValue_toDigits (n : Nat) : numeralValue (Nat.toDigits 10 n) = n := by
  rw [numeralValue_eq_ofDigitChars fun c member =>
    Nat.isDigit_of_mem_toDigits (by decide) (by decide) member]
  exact Nat.ofDigitChars_ten_toDigits

theorem isNumeral_toDigits {n : Nat} (short : (Nat.toDigits 10 n).length ≤ numeralLimit) :
    IsNumeral (Nat.toDigits 10 n) :=
  ⟨Nat.toDigits_ne_nil, fun _ => isDecimal_of_mem_toDigits, short⟩

theorem decimalValue?_lt {c : Char} {value : Nat} (found : decimalValue? c = some value) :
    value < 10 := by
  obtain ⟨start, script, rfl⟩ := Option.map_eq_some_iff.1 found
  have within := List.find?_some script
  simp only [Bool.and_eq_true, decide_eq_true_eq] at within
  omega

/-- An integer has too many digits from a power of ten on. -/
theorem isOverlong_iff (n : Int) : isOverlong n = true ↔ Nat.pow 10 numeralLimit ≤ n.natAbs := by
  rw [isOverlong, decide_eq_true_iff, ← Nat.not_le,
    Nat.length_toDigits_le_iff (by decide) (by decide), Nat.not_lt, Nat.pow_eq]

/-- The decimal form of what some digits write is not longer than they are. -/
theorem length_toDigits_numeralValue_le {digits : List Char} (present : digits ≠ []) :
    (Nat.toDigits 10 (numeralValue digits)).length ≤ digits.length := by
  induction digits using List.reverseRecOn with
  | nil => exact absurd rfl present
  | append_singleton front c ih =>
    have small : (decimalValue? c).getD 0 < 10 := by
      cases found : decimalValue? c with
      | none => decide
      | some value => exact decimalValue?_lt found
    have value : numeralValue (front ++ [c]) =
        10 * numeralValue front + (decimalValue? c).getD 0 := by
      simp [numeralValue]
    rw [value, List.length_append, List.length_singleton]
    by_cases zero : numeralValue front = 0
    · rw [zero, Nat.mul_zero, Nat.zero_add, Nat.toDigits_of_lt_base small]
      exact Nat.le_add_left 1 front.length
    · have grown : front ≠ [] := by
        rintro rfl
        exact zero rfl
      rw [← Nat.toDigits_append_toDigits (by decide) (Nat.pos_of_ne_zero zero) small,
        List.length_append, Nat.toDigits_of_lt_base small]
      exact Nat.add_le_add_right (ih grown) 1

end Workflow.Text
