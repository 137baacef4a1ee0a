/-!
Splitting at a separator character. The parts, joined by the separator, give the text back.
-/
namespace Workflow.Text

/-- The parts between separators; a text without separator is one part. -/
def splitOn (separator : Char) : List Char → List (List Char)
  | [] => [[]]
  | c :: rest =>
    if c = separator then [] :: splitOn separator rest
    else match splitOn separator rest with
      | part :: parts => (c :: part) :: parts
      | [] => [[c]]

theorem splitOn_ne_nil (separator : Char) (cs : List Char) : splitOn separator cs ≠ [] := by
  cases cs with
  | nil => simp [splitOn]
  | cons c rest => simp only [splitOn]; split <;> (try split) <;> simp

/-- Text without a separator stays whole. -/
theorem splitOn_of_not_mem (separator : Char) (cs : List Char) (absent : separator ∉ cs) :
    splitOn separator cs = [cs] := by
  induction cs with
  | nil => rfl
  | cons c rest ih =>
    simp only [List.mem_cons, not_or] at absent
    simp [splitOn, Ne.symm absent.1, ih absent.2]

theorem splitOn_append (separator : Char) (front rest : List Char) (absent : separator ∉ front) :
    splitOn separator (front ++ separator :: rest) = front :: splitOn separator rest := by
  induction front with
  | nil => simp [splitOn]
  | cons c front ih =>
    simp only [List.mem_cons, not_or] at absent
    simp [splitOn, Ne.symm absent.1, ih absent.2]

/-- The parts are the texts without separator that, joined by it, give the text back. -/
theorem splitOn_eq_cons_iff (separator : Char) (cs first : List Char) (rest : List (List Char)) :
    splitOn separator cs = first :: rest ↔
      (∀ part ∈ first :: rest, separator ∉ part) ∧
        cs = first ++ rest.flatMap (separator :: ·) := by
  constructor
  · intro parts
    induction cs generalizing first rest with
    | nil =>
      cases parts
      simp
    | cons c cs ih =>
      rw [splitOn] at parts
      split at parts
      next same =>
        cases parts
        subst same
        obtain ⟨part, others, found⟩ := List.exists_cons_of_ne_nil (splitOn_ne_nil c cs)
        obtain ⟨absent, joined⟩ := ih part others found
        rw [found]
        exact ⟨by simpa using absent, by rw [List.flatMap_cons, List.cons_append, ← joined]; rfl⟩
      next different =>
        obtain ⟨part, others, found⟩ := List.exists_cons_of_ne_nil (splitOn_ne_nil separator cs)
        obtain ⟨absent, joined⟩ := ih part others found
        rw [found] at parts
        cases parts
        refine ⟨?_, by rw [joined, List.cons_append]⟩
        intro piece member
        rcases List.mem_cons.1 member with rfl | member
        · simpa [Ne.symm different] using absent part List.mem_cons_self
        · exact absent piece (List.mem_cons_of_mem part member)
  · rintro ⟨absent, rfl⟩
    induction rest generalizing first with
    | nil => simpa using splitOn_of_not_mem separator first (absent first List.mem_cons_self)
    | cons second rest ih =>
      rw [List.flatMap_cons, List.cons_append, splitOn_append separator first _
        (absent first List.mem_cons_self)]
      rw [ih second fun part member => absent part (List.mem_cons_of_mem first member)]

end Workflow.Text
