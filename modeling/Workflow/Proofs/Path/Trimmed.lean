import Mathlib.Data.List.DropRight
import Workflow.Proofs.Path.Addressed

/-!
Written paths with blanks around them. Names may begin and end in blanks, so what is left of a
written path without the blanks around it can have a shorter step and a shorter last key, or end in
a dot where the last key was blank. It is still read hop by hop.
-/
namespace Workflow.Path

/-- The keys among some hops are names. -/
def Named (segments : List Segment) : Prop := ∀ name, .key name ∈ segments → IsName name

theorem named_append_iff {front back : List Segment} :
    Named (front ++ back) ↔ Named front ∧ Named back := by
  simp only [Named, List.mem_append]
  grind

theorem named_cons_iff {segment : Segment} {segments : List Segment} :
    Named (segment :: segments) ↔ Named [segment] ∧ Named segments := by
  change Named ([segment] ++ segments) ↔ _
  exact named_append_iff

/-! ### Ends of hops -/

/-- The first character of a hop is a dot or a bracket. -/
theorem exists_chars_eq (segment : Segment) : ∃ c rest, segment.chars = c :: rest ∧
    Text.isBlank c = false ∧ (c = '.' ∨ c = '[') := by
  cases segment with
  | key name => exact ⟨'.', _, Segment.chars_key name, rfl, .inl rfl⟩
  | dotted index => exact ⟨'.', _, Segment.chars_dotted index, rfl, .inl rfl⟩
  | bracket index => exact ⟨'[', _, Segment.chars_bracket index, rfl, .inr rfl⟩

/-- No index ends in a blank. -/
theorem unblank_of_index {segment : Segment} (index : ∀ name, segment ≠ .key name) :
    ∀ c ∈ segment.chars.getLast?, Text.isBlank c = false := by
  cases segment with
  | key name => exact absurd rfl (index name)
  | dotted index =>
    intro c last
    rw [Segment.chars_dotted, ← List.singleton_append,
      List.getLast?_append_of_ne_nil _ Nat.toDigits_ne_nil] at last
    exact (unbroken_of_mem_toDigits (List.mem_of_getLast? last)).1
  | bracket index =>
    intro c last
    rw [Segment.chars_bracket, indexText, ← List.cons_append, List.getLast?_concat] at last
    cases last
    rfl

theorem unblank_append_index {segment : Segment} (front : List Char)
    (index : ∀ name, segment ≠ .key name) :
    ∀ c ∈ (front ++ segment.chars).getLast?, Text.isBlank c = false := by
  obtain ⟨c, rest, same, _⟩ := exists_chars_eq segment
  rw [List.getLast?_append_of_ne_nil _ (by simp [same])]
  exact unblank_of_index index

theorem isName_dropEndWhile {name : String} (named : IsName name)
    (present : Text.dropEndWhile Text.isBlank name.toList ≠ []) :
    IsName (String.ofList (Text.dropEndWhile Text.isBlank name.toList)) :=
  isName_ofList present fun c member =>
    named.plain c ((List.rdropWhile_prefix Text.isBlank _).subset member)

/-- Without the blanks at their end, hops are hops again, as many as they were, or end in a dot. -/
theorem exists_trimmed {segments : List Segment} (named : Named segments) :
    ∃ (kept : List Segment) (tail : List (List Char)), Named kept ∧
      (tail = [] ∧ kept.length = segments.length ∨ tail = [[]]) ∧
      Text.dropEndWhile Text.isBlank (segments.flatMap Segment.chars) =
        kept.flatMap Segment.chars ++ tail.flatMap ('.' :: ·) := by
  obtain rfl | ⟨front, last, rfl⟩ := List.eq_nil_or_concat' segments
  · exact ⟨[], [], named, .inl ⟨rfl, rfl⟩, rfl⟩
  · obtain ⟨first, final⟩ := named_append_iff.1 named
    by_cases index : ∀ name, last ≠ .key name
    · refine ⟨front ++ [last], [], named, .inl ⟨rfl, rfl⟩, ?_⟩
      have kept := Text.dropEndWhile_append_of_last [] (unblank_append_index
        (front.flatMap Segment.chars) index)
      have none : Text.dropEndWhile Text.isBlank [] = [] := rfl
      simpa [none] using kept
    · simp only [not_forall, not_not] at index
      obtain ⟨name, rfl⟩ := index
      have dot : ∀ c ∈ (front.flatMap Segment.chars ++ ['.']).getLast?,
          Text.isBlank c = false := by
        rw [List.getLast?_concat]
        rintro _ ⟨⟩
        rfl
      have kept := Text.dropEndWhile_append_of_last name.toList dot
      by_cases blank : Text.dropEndWhile Text.isBlank name.toList = []
      · refine ⟨front, [[]], first, .inr rfl, ?_⟩
        simpa [blank] using kept
      · refine ⟨front ++ [.key (String.ofList (Text.dropEndWhile Text.isBlank name.toList))], [],
          named_append_iff.2 ⟨first, ?_⟩, .inl ⟨rfl, by simp⟩, ?_⟩
        · intro other member
          obtain rfl := Segment.key.inj (List.mem_singleton.1 member)
          exact isName_dropEndWhile (final name List.mem_cons_self) blank
        · simpa using kept

/-! ### Reading -/

/-- A part that begins with a bracket has no name. -/
theorem Part.Stands.name_eq_nil {part : Part} {rest : List Char}
    (stands : part.Stands ('[' :: rest)) : part.name = [] := by
  obtain ⟨proper, written⟩ := stands
  by_contra present
  obtain ⟨c, name, same⟩ := List.exists_cons_of_ne_nil present
  have first : c = '[' := by
    rcases written with written | ⟨_, written⟩ <;> simp [text, same] at written <;>
      exact written.1.symm
  have plain := (proper.name c (by simp [same])).2
  rw [first] at plain
  cases plain

/-- A text that begins where a hop does names no step. -/
theorem parse_of_hop {c : Char} (rest : List Char) (opens : c = '.' ∨ c = '[') :
    ∃ fault, parse (String.ofList (c :: rest)) = .error (.malformed fault) := by
  obtain ⟨first, texts, split⟩ := List.exists_cons_of_ne_nil (Text.splitOn_ne_nil '.' (c :: rest))
  obtain ⟨dotless, whole⟩ := (Text.splitOn_eq_cons_iff ..).1 split
  have dotless := dotless first List.mem_cons_self
  rw [parse, String.toList_ofList, split]
  dsimp only
  rw [List.isEmpty_cons, if_neg Bool.false_ne_true]
  cases read : readPart first with
  | error e =>
    obtain ⟨⟨fault, rfl⟩, _⟩ := readPart_error dotless read
    exact ⟨fault, rfl⟩
  | ok found =>
    obtain ⟨name, indices⟩ := found
    have stands := (readPart_ok_iff dotless ⟨name, indices⟩).1 read
    obtain ⟨d, piece, rfl⟩ := List.exists_cons_of_ne_nil stands.ne_nil
    obtain ⟨rfl, _⟩ := List.cons.inj whole
    obtain rfl := opens.resolve_left fun dot => dotless (by simp [dot])
    obtain rfl : name = [] := stands.name_eq_nil
    exact ⟨.missingStep, rfl⟩

variable {step : String} {segments : List Segment}

/-- The blanks around a written path stand before its step and behind its last hop. -/
theorem trim_spell_hops (step : String) (present : segments ≠ []) :
    Text.trim (spell ⟨step, segments⟩) =
      String.ofList (step.toList.dropWhile Text.isBlank ++
        Text.dropEndWhile Text.isBlank (segments.flatMap Segment.chars)) := by
  obtain ⟨segment, rest, rfl⟩ := List.exists_cons_of_ne_nil present
  obtain ⟨c, chars, same, kept, _⟩ := exists_chars_eq segment
  rw [Text.trim, toList_spell, List.flatMap_cons, same, List.cons_append,
    Text.strip_append _ _ kept]

/-- Where only blanks stand before the first hop, no step is named. -/
theorem parse_of_blank_step (present : segments ≠ [])
    (blank : step.toList.dropWhile Text.isBlank = []) (rest : List Char) :
    ∃ fault, parse (String.ofList (step.toList.dropWhile Text.isBlank ++
      (segments.flatMap Segment.chars ++ rest))) = .error (.malformed fault) := by
  obtain ⟨segment, others, rfl⟩ := List.exists_cons_of_ne_nil present
  obtain ⟨c, chars, same, _, opens⟩ := exists_chars_eq segment
  rw [blank, List.flatMap_cons, same]
  exact parse_of_hop _ opens

/-- Behind the blanks before the step, a written path is read hop by hop. -/
theorem parse_of_step (named : IsName step) (names : Named segments) {tail : List (List Char)}
    (dotless : ∀ text ∈ tail, '.' ∉ text) (present : step.toList.dropWhile Text.isBlank ≠ []) :
    parse (String.ofList (step.toList.dropWhile Text.isBlank ++
        (segments.flatMap Segment.chars ++ tail.flatMap ('.' :: ·)))) =
      Path.mk (String.ofList (step.toList.dropWhile Text.isBlank)) <$>
        joined (readHops segments) (ofParts tail) := by
  refine parse_hops present (fun c member => named.plain c ?_) names dotless
  exact (List.dropWhile_suffix Text.isBlank).subset member

end Workflow.Path
