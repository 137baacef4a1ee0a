import Mathlib.Data.List.TakeWhile
import Workflow.Template

/-!
Texts as sequences of pieces. An expression without braces between double braces is a placeholder
wherever it stands in a text, and two of them never overlap. So a text splits in one way into
placeholders and literal text between them that holds none, and this is what the scan finds.
-/
namespace Workflow.Piece

/-! ### Placeholders in a text -/

/-- The characters of a placeholder. -/
def braced (expression : List Char) : List Char :=
  '{' :: '{' :: (expression ++ ['}', '}'])

/-- An expression has no braces. -/
def Plain (expression : List Char) : Prop := ∀ c ∈ expression, isBrace c = false

/-- A text begins with a placeholder exactly if one stands in front. -/
theorem placeholder?_eq_some_iff (text expression : List Char) :
    placeholder? text = some expression ↔
      Plain expression ∧ ∃ rest, text = braced expression ++ rest := by
  constructor
  · intro found
    unfold placeholder? at found
    split at found
    next rest =>
      dsimp only at found
      split at found
      next closed =>
        cases found
        obtain ⟨after, closed⟩ := List.isPrefixOf_iff_prefix.1 closed
        refine ⟨fun c member => ?_, after, ?_⟩
        · simpa using List.mem_takeWhile_imp member
        · have whole := List.takeWhile_append_dropWhile (p := (!isBrace ·)) (l := rest)
          simp only [braced, List.cons_append, List.append_assoc, List.nil_append] at closed ⊢
          rw [closed, whole]
      · cases found
    · cases found
  · rintro ⟨plain, rest, rfl⟩
    have name : (expression ++ '}' :: '}' :: rest).takeWhile (!isBrace ·) = expression := by
      rw [List.takeWhile_append_of_pos (by simpa [Plain] using plain)]
      simp [isBrace]
    have closing : (expression ++ '}' :: '}' :: rest).dropWhile (!isBrace ·) =
        '}' :: '}' :: rest := by
      rw [List.dropWhile_append_of_pos (by simpa [Plain] using plain)]
      simp [isBrace]
    simp [placeholder?, braced, name, closing]

/-- Behind its start a placeholder has no brace that opens. -/
theorem getElem?_tail_ne {expression rest : List Char} (plain : Plain expression) {k : Nat}
    (inside : k < expression.length + 2) :
    (expression ++ '}' :: '}' :: rest)[k]? ≠ some '{' := by
  rcases Nat.lt_or_ge k expression.length with name | closing
  · rw [List.getElem?_append_left name]
    intro brace
    have outside := plain '{' (List.mem_of_getElem? brace)
    cases outside
  · rw [List.getElem?_append_right closing]
    obtain first | second : k - expression.length = 0 ∨ k - expression.length = 1 := by omega
    · simp [first]
    · simp [second]

/-- Where another placeholder starts later in the text, the one in front has ended. -/
theorem length_braced_le {first second before rest rest' : List Char} (plain : Plain first)
    (later : before ≠ []) (same : braced first ++ rest = before ++ (braced second ++ rest')) :
    (braced first).length ≤ before.length := by
  -- The second one starts with two braces that open; the first one has none behind its start.
  have tail (k : Nat) : (before ++ (braced second ++ rest'))[k + 2]? =
      (first ++ '}' :: '}' :: rest)[k]? := by
    rw [← same]
    simp [braced]
  have opens (k : Nat) (two : k < 2) :
      (before ++ (braced second ++ rest'))[before.length + k]? = some '{' := by
    rw [List.getElem?_append_right (Nat.le_add_right ..), Nat.add_sub_cancel_left]
    obtain rfl | rfl : k = 0 ∨ k = 1 := by omega
    · rfl
    · rfl
  by_contra overlap
  have size : (braced first).length = first.length + 4 := by
    simp only [braced, List.length_cons, List.length_append, List.length_nil]
  have positive : 0 < before.length := List.length_pos_iff.2 later
  obtain ⟨k, inside, brace⟩ : ∃ k < first.length + 2,
      (before ++ (braced second ++ rest'))[k + 2]? = some '{' := by
    rcases Nat.lt_or_ge before.length 2 with near | far
    · exact ⟨0, by omega, by rw [← opens 1 (by omega)]; congr 1; omega⟩
    · exact ⟨before.length - 2, by omega, by rw [← opens 0 (by omega)]; congr 1; omega⟩
  rw [tail] at brace
  exact getElem?_tail_ne plain inside brace

/-! ### Splits -/

/-- No placeholder stands in a text. -/
def Bare (text : List Char) : Prop :=
  ∀ before expression after, Plain expression → text ≠ before ++ (braced expression ++ after)

/-- A text splits into placeholders and literal text without them. Literal text is not empty, and
goes on to the next placeholder. -/
inductive Decomposes : List Piece → List Char → Prop
  | nil : Decomposes [] []
  | placeholder {expression rest : List Char} {pieces : List Piece} :
    Plain expression → Decomposes pieces rest →
    Decomposes (.placeholder expression :: pieces) (braced expression ++ rest)
  | literal {text rest : List Char} {pieces : List Piece} :
    text ≠ [] → Bare text → (∀ other, pieces.head? ≠ some (.literal other)) →
    Decomposes pieces rest →
    Decomposes (.literal text :: pieces) (text ++ rest)

/-- No placeholder begins in literal text. -/
theorem placeholder?_of_literal {text rest : List Char} {pieces : List Piece} (present : text ≠ [])
    (bare : Bare text) (alone : ∀ other, pieces.head? ≠ some (.literal other))
    (later : Decomposes pieces rest) : placeholder? (text ++ rest) = none := by
  cases found : placeholder? (text ++ rest) with
  | none => rfl
  | some expression =>
    exfalso
    obtain ⟨plain, after, split⟩ := (placeholder?_eq_some_iff ..).1 found
    -- It would have to end where the next placeholder begins, so it stands in the literal text.
    have ends : (braced expression).length ≤ text.length := by
      cases later with
      | nil =>
        have size := congrArg List.length split
        simp only [List.append_nil, List.length_append] at size
        omega
      | placeholder => exact length_braced_le plain present split.symm
      | literal => exact absurd rfl (alone _)
    obtain ⟨left, rfl⟩ : braced expression <+: text :=
      List.prefix_of_prefix_length_le ⟨after, split.symm⟩ (List.prefix_append text rest) ends
    exact bare [] expression left plain rfl

theorem scan_literal {text rest : List Char} {pieces : List Piece} (present : text ≠ [])
    (bare : Bare text) (alone : ∀ other, pieces.head? ≠ some (.literal other))
    (later : Decomposes pieces rest) (scanned : scan 0 rest = pieces) :
    scan 0 (text ++ rest) = .literal text :: pieces := by
  induction text with
  | nil => exact absurd rfl present
  | cons c text ih =>
    have here : placeholder? (c :: (text ++ rest)) = none :=
      placeholder?_of_literal (List.cons_ne_nil c text) bare alone later
    rw [List.cons_append, scan, here]
    dsimp only
    by_cases last : text = []
    · rw [last, List.nil_append, scanned]
      unfold addLiteral
      split
      · exact absurd rfl (alone _)
      · rfl
    · rw [ih last fun before expression after plain split =>
        bare (c :: before) expression after plain (by rw [split, List.cons_append])]
      rfl

/-- What a placeholder covers is passed over. -/
theorem scan_append (front rest : List Char) : scan front.length (front ++ rest) = scan 0 rest := by
  induction front with
  | nil => rfl
  | cons c front ih => rw [List.length_cons, List.cons_append, scan, ih]

theorem scan_braced {expression : List Char} (plain : Plain expression) (rest : List Char) :
    scan 0 (braced expression ++ rest) = .placeholder expression :: scan 0 rest := by
  have found := (placeholder?_eq_some_iff _ _).2 ⟨plain, rest, rfl⟩
  have passed := scan_append ('{' :: (expression ++ ['}', '}'])) rest
  rw [List.length_cons, List.length_append] at passed
  rw [braced, List.cons_append] at found ⊢
  rw [scan, found]
  exact congrArg _ passed

theorem Decomposes.ofChars_eq {pieces : List Piece} {text : List Char}
    (split : Decomposes pieces text) : ofChars text = pieces := by
  induction split with
  | nil => rfl
  | placeholder plain _ ih => exact (scan_braced plain _).trans (congrArg _ ih)
  | literal present bare alone later ih => exact scan_literal present bare alone later ih

/-- One more character of literal text. -/
theorem Decomposes.addLiteral {c : Char} {rest : List Char} {pieces : List Piece}
    (here : placeholder? (c :: rest) = none) (split : Decomposes pieces rest) :
    Decomposes (addLiteral c pieces) (c :: rest) := by
  have single : Bare [c] := by
    intro before expression after _ same
    have size := congrArg List.length same
    simp only [braced, List.length_cons, List.length_append, List.length_nil] at size
    omega
  cases split with
  | nil => exact .literal (List.cons_ne_nil c []) single (by simp) .nil
  | placeholder plain later =>
    exact .literal (List.cons_ne_nil c []) single (by simp) (.placeholder plain later)
  | @literal text rest pieces _ bare alone later =>
    refine .literal (List.cons_ne_nil c text) ?_ alone later
    intro before expression after plain same
    cases before with
    | nil =>
      have found : placeholder? (c :: (text ++ rest)) = some expression := by
        refine (placeholder?_eq_some_iff ..).2 ⟨plain, after ++ rest, ?_⟩
        rw [← List.cons_append, same, List.nil_append, List.append_assoc]
      rw [here] at found
      cases found
    | cons other before => exact bare before expression after plain (List.cons.inj same).2

theorem decomposes_scan (text : List Char) (covered : Nat) :
    Decomposes (scan covered text) (text.drop covered) := by
  induction text generalizing covered with
  | nil => simpa [scan] using Decomposes.nil
  | cons c rest ih =>
    cases covered with
    | succ covered => exact ih covered
    | zero =>
      rw [scan]
      cases found : placeholder? (c :: rest) with
      | none => exact (ih 0).addLiteral found
      | some expression =>
        obtain ⟨plain, after, split⟩ := (placeholder?_eq_some_iff ..).1 found
        have later := ih (expression.length + 3)
        have behind : rest.drop (expression.length + 3) = after := by
          rw [braced, List.cons_append, List.cons.injEq] at split
          rw [split.2]
          exact List.drop_left' (by simp)
        rw [behind] at later
        rw [List.drop_zero, split]
        exact .placeholder plain later

theorem decomposes_ofChars (text : List Char) : Decomposes (ofChars text) text :=
  decomposes_scan text 0

/-- A text splits into what the scan finds, and into nothing else. -/
theorem decomposes_iff (pieces : List Piece) (text : List Char) :
    Decomposes pieces text ↔ ofChars text = pieces := by
  refine ⟨Decomposes.ofChars_eq, ?_⟩
  rintro rfl
  exact decomposes_ofChars text

/-- Of three braces the inner two belong to the placeholder. -/
example : ofChars ['{', '{', '{', 'a', '}', '}', '}'] =
    [.literal ['{'], .placeholder ['a'], .literal ['}']] := rfl

theorem decomposes_placeholder_iff (expression text : List Char) :
    Decomposes [.placeholder expression] text ↔ Plain expression ∧ text = braced expression := by
  constructor
  · rintro (_ | ⟨plain, rest⟩)
    cases rest
    exact ⟨plain, List.append_nil _⟩
  · rintro ⟨plain, rfl⟩
    simpa using Decomposes.placeholder plain .nil

/-- A text around a placeholder splits at it. -/
theorem Decomposes.around {expression before after : List Char}
    {pieces others : List Piece} (first : Decomposes pieces before) (plain : Plain expression)
    (second : Decomposes others after) :
    Decomposes (pieces ++ .placeholder expression :: others)
      (before ++ (braced expression ++ after)) := by
  induction first with
  | nil => exact .placeholder plain second
  | placeholder plain' _ ih =>
    rw [List.append_assoc]
    exact .placeholder plain' ih
  | @literal text rest pieces present bare alone _ ih =>
    rw [List.append_assoc]
    refine .literal present bare (fun other head => ?_) ih
    cases pieces with
    | nil => cases head
    | cons piece pieces => exact alone other head

theorem Decomposes.braced_of_mem {expression text : List Char} {pieces : List Piece}
    (split : Decomposes pieces text) (member : .placeholder expression ∈ pieces) :
    Plain expression ∧ ∃ before after, text = before ++ (braced expression ++ after) := by
  induction split with
  | nil => cases member
  | @placeholder other rest pieces plain _ ih =>
    rcases List.mem_cons.1 member with same | member
    · cases same
      exact ⟨plain, [], rest, rfl⟩
    · obtain ⟨plain', before, after, rfl⟩ := ih member
      exact ⟨plain', braced other ++ before, after, (List.append_assoc ..).symm⟩
  | @literal text rest pieces _ _ _ _ ih =>
    rcases List.mem_cons.1 member with same | member
    · cases same
    · obtain ⟨plain, before, after, rfl⟩ := ih member
      exact ⟨plain, text ++ before, after, (List.append_assoc ..).symm⟩

/-! ### What the scan finds -/

/-- Every expression without braces between double braces is found. -/
theorem mem_ofChars {expression : List Char} (plain : Plain expression)
    (before after : List Char) :
    placeholder expression ∈ ofChars (before ++ (braced expression ++ after)) := by
  have split := (decomposes_ofChars before).around plain (decomposes_ofChars after)
  rw [split.ofChars_eq]
  simp

/-- Nothing else is found. -/
theorem mem_ofChars_iff (expression text : List Char) :
    placeholder expression ∈ ofChars text ↔
      Plain expression ∧ ∃ before after, text = before ++ (braced expression ++ after) := by
  constructor
  · exact (decomposes_ofChars text).braced_of_mem
  · rintro ⟨plain, before, after, rfl⟩
    exact mem_ofChars plain before after

/-- A text without placeholders is one piece. -/
theorem ofChars_of_bare {text : List Char} (present : text ≠ []) (bare : Bare text) :
    ofChars text = [.literal text] := by
  simpa using (Decomposes.literal present bare (by simp) .nil).ofChars_eq

end Workflow.Piece
