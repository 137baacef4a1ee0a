import Workflow.Proofs.Path.Summarised

/-!
Lookups hop by hop. The lookup of an expression arrives at one node after the other, each with fewer
hops to go: at its value with none to go, and otherwise, where it fails, at a last node with some.
What it comes to depends on the path that the expression denotes, whose place in a text shows in the
messages alone.
-/
namespace Workflow

/-- The kinds of what keeps a template from being resolved. -/
inductive ResolveKind where
  | unresolved (kind : ResolutionKind)
  | numeral
  | uncopyable
  | unreadable
  | untold (kind : String)
  deriving DecidableEq, Repr

def ResolveError.kind : ResolveError → ResolveKind
  | .unresolved error => .unresolved error.cause.kind
  | .numeral _ => .numeral
  | .uncopyable _ => .uncopyable
  | .unreadable _ => .unreadable
  | .untold cause => .untold cause.kind

def WalkError.kind : WalkError → ResolveKind
  | .cause reported => .unresolved reported.kind
  | .unreadable _ => .unreadable

def Path.Error.kind : Path.Error → ResolveKind
  | .malformed _ => .unresolved .malformed
  | .numeral _ => .numeral

def ResolveError.ofWalk (expression : String) : WalkError → ResolveError
  | .cause cause => .unresolved ⟨expression, cause⟩
  | .unreadable cause => .unreadable cause

def ResolveError.ofParse (expression : String) : Path.Error → ResolveError
  | .malformed fault => .unresolved ⟨expression, .malformed fault⟩
  | .numeral cause => .numeral cause

/-- What resolving comes to: the value, or the kind of the failure. -/
def outcome {α : Type} (result : Except ResolveError α) : Except ResolveKind α :=
  result.mapError ResolveError.kind

@[simp]
theorem kind_ofWalk (expression : String) (e : WalkError) :
    (ResolveError.ofWalk expression e).kind = e.kind := by
  cases e <;> rfl

@[simp]
theorem kind_ofParse (expression : String) (e : Path.Error) :
    (ResolveError.ofParse expression e).kind = e.kind := by
  cases e <;> rfl

theorem outcome_mapError_ofWalk {α : Type} (expression : String) (result : Except WalkError α) :
    outcome (result.mapError (ResolveError.ofWalk expression)) =
      result.mapError WalkError.kind := by
  cases result <;> simp [outcome]

namespace Path

/-- A text is an expression for a path, with blanks around it or without. -/
def Denotes (expression : String) (path : Path) : Prop := parse (Text.trim expression) = .ok path

/-- The lookup of an expression arrives at a node with so many hops still to go. -/
def Arrives (outputs : Outputs) (expression : String) (node : Value) (left : Nat) : Prop :=
  ∃ path start front rest, Denotes expression path ∧ outputs.lookup path.step = some start ∧
    skipResult start path.segments = front ++ rest ∧ rest.length = left ∧
    walk path.step start front = .ok node

/-! ### Lookups -/

variable {outputs : Outputs} {expression : String} {path : Path} {start : Value}

theorem lookup_of_refused (outputs : Outputs) {e : Error}
    (refused : parse (Text.trim expression) = .error e) :
    lookup expression outputs = .error (ResolveError.ofParse (Text.trim expression) e) := by
  unfold lookup
  simp only [refused]
  cases e <;> rfl

theorem lookup_of_absent (denotes : Denotes expression path)
    (absent : outputs.lookup path.step = none) :
    lookup expression outputs =
      .error (.unresolved ⟨Text.trim expression, .notExecuted path.step⟩) := by
  have denotes : parse (Text.trim expression) = .ok path := denotes
  unfold lookup
  simp only [denotes, absent]

theorem lookup_of_stored (denotes : Denotes expression path)
    (stored : outputs.lookup path.step = some start) :
    lookup expression outputs = (walk path.step start (skipResult start path.segments)).mapError
      (ResolveError.ofWalk (Text.trim expression)) := by
  have denotes : parse (Text.trim expression) = .ok path := denotes
  unfold lookup
  simp only [denotes, stored]
  cases walk path.step start (skipResult start path.segments) with
  | ok value => rfl
  | error e => cases e <;> rfl

theorem outcome_lookup_of_stored (denotes : Denotes expression path)
    (stored : outputs.lookup path.step = some start) :
    outcome (lookup expression outputs) =
      (walk path.step start (skipResult start path.segments)).mapError WalkError.kind := by
  rw [lookup_of_stored denotes stored, outcome_mapError_ofWalk]

/-- What a lookup arrives at is told by the hops that it has behind it. -/
theorem arrives_iff {segments : List Segment} (denotes : Denotes expression path)
    (stored : outputs.lookup path.step = some start)
    (counted : skipResult start path.segments = segments) (node : Value) (left : Nat) :
    Arrives outputs expression node left ↔ left ≤ segments.length ∧
      walk path.step start (segments.take (segments.length - left)) = .ok node := by
  subst counted
  constructor
  · rintro ⟨other, first, front, rest, denotes', stored', split, rfl, reached⟩
    obtain rfl := Except.ok.inj (denotes.symm.trans denotes')
    obtain rfl := Option.some.inj (stored.symm.trans stored')
    rw [split]
    simpa using reached
  · rintro ⟨enough, reached⟩
    refine ⟨path, start, _, _, denotes, stored, (List.take_append_drop _ _).symm, ?_, reached⟩
    rw [List.length_drop]
    omega

theorem Arrives.exists_stored {node : Value} {left : Nat}
    (arrives : Arrives outputs expression node left) (denotes : Denotes expression path) :
    ∃ start, outputs.lookup path.step = some start := by
  obtain ⟨other, start, _, _, denotes', stored, _⟩ := arrives
  obtain rfl := Except.ok.inj (denotes.symm.trans denotes')
  exact ⟨start, stored⟩

/-- A lookup arrives at one node only with the same number of hops to go. -/
theorem Arrives.unique {node other : Value} {left : Nat}
    (arrives : Arrives outputs expression node left)
    (arrives' : Arrives outputs expression other left) : node = other := by
  have ⟨path, start, _, _, denotes, stored, _⟩ := arrives
  have reached := ((arrives_iff denotes stored rfl node left).1 arrives).2
  have reached' := ((arrives_iff denotes stored rfl other left).1 arrives').2
  exact Except.ok.inj (reached.symm.trans reached')

/-! ### Walks -/

theorem bracket_ne_key (index : Nat) (name : String) : Segment.bracket index ≠ .key name := by
  simp

theorem dotted_ne_key (index : Nat) (name : String) : Segment.dotted index ≠ .key name := by
  simp

/-- An index is no leading `result`. -/
theorem skipResult_append (start : Value) (front back : List Segment) (segment : Segment)
    (index : ∀ name, segment ≠ .key name) :
    skipResult start (front ++ segment :: back) = skipResult start front ++ segment :: back := by
  cases front with
  | nil =>
    cases segment with
    | key name => exact absurd rfl (index name)
    | dotted => rfl
    | bracket => rfl
  | cons first front =>
    cases first with
    | key name =>
      simp only [List.cons_append, skipResult]
      split <;> rfl
    | dotted => rfl
    | bracket => rfl

/-- Where two checks fail alike they succeed alike. -/
theorem ok_iff_of_kind {α : Type} {x y : Except WalkError α}
    (same : x.mapError WalkError.kind = y.mapError WalkError.kind) {a : α} :
    x = .ok a ↔ y = .ok a := by
  rw [← Success.mapError_ok_iff (f := WalkError.kind), same, Success.mapError_ok_iff]

theorem walk_append (place : String) (start : Value) (front back : List Segment) :
    walk place start (front ++ back) =
      walk place start front >>= fun node => walk (spell ⟨place, front⟩) node back := by
  induction front generalizing place start with
  | nil => rfl
  | cons segment front ih =>
    rw [List.cons_append, walk, walk]
    cases hop place start segment with
    | error e => rfl
    | ok next => exact ih (place ++ hopText segment) next

/-- What a walk reports is never that an expression is no path. -/
theorem blame_ne_malformed {node : Value} {cause : Schema → ResolutionCause} {fault : Fault}
    (other : ∀ s, (cause s).kind ≠ .malformed) :
    blame node cause ≠ .error (.cause (.malformed fault)) := by
  intro failed
  unfold blame at failed
  cases inferred : Schema.infer node with
  | error e => rw [inferred] at failed; cases failed
  | ok schema =>
    rw [inferred] at failed
    have same := WalkError.cause.inj (Except.error.inj failed)
    exact other schema (congrArg ResolutionCause.kind same)

theorem hop_ne_malformed (place : String) (node : Value) (segment : Segment) (fault : Fault) :
    hop place node segment ≠ .error (.cause (.malformed fault)) := by
  cases segment <;> cases node <;> simp only [hop, itemAt] <;>
    first
      | exact blame_ne_malformed fun _ => by simp [ResolutionCause.kind]
      | split
        · simp
        · exact blame_ne_malformed fun _ => by simp [ResolutionCause.kind]

theorem walk_ne_malformed (place : String) (node : Value) (segments : List Segment)
    (fault : Fault) : walk place node segments ≠ .error (.cause (.malformed fault)) := by
  induction segments generalizing place node with
  | nil => exact nofun
  | cons segment segments ih =>
    have first := hop_ne_malformed place node segment fault
    rw [walk]
    cases hopped : hop place node segment with
    | error e => rwa [hopped] at first
    | ok next => exact ih (place ++ hopText segment) next

/-- An error about an expression shows the expression without the blanks around it. It says that
this is no path if it is none, and otherwise something else. -/
theorem unresolved_of_lookup {e : ResolutionError}
    (failed : lookup expression outputs = .error (.unresolved e)) :
    e.expression = Text.trim expression ∧
      ((∃ fault, parse e.expression = .error (.malformed fault) ∧ e.cause = .malformed fault) ∨
        ∃ path, parse e.expression = .ok path ∧ ∀ fault, e.cause ≠ .malformed fault) := by
  cases denotes : parse (Text.trim expression) with
  | error error =>
    rw [lookup_of_refused outputs denotes] at failed
    cases error with
    | malformed fault =>
      cases failed
      exact ⟨rfl, .inl ⟨fault, denotes, rfl⟩⟩
    | numeral cause => cases failed
  | ok path =>
    cases stored : outputs.lookup path.step with
    | none =>
      rw [lookup_of_absent denotes stored] at failed
      cases failed
      exact ⟨rfl, .inr ⟨path, denotes, nofun⟩⟩
    | some start =>
      rw [lookup_of_stored denotes stored] at failed
      cases walked : walk path.step start (skipResult start path.segments) with
      | ok value => rw [walked] at failed; cases failed
      | error error =>
        rw [walked] at failed
        cases error with
        | unreadable cause => cases failed
        | cause cause =>
          cases failed
          refine ⟨rfl, .inr ⟨path, denotes, ?_⟩⟩
          rintro fault rfl
          exact walk_ne_malformed _ _ _ fault walked

theorem kind_blame (node : Value) {cause other : Schema → ResolutionCause}
    (same : ∀ s, (cause s).kind = (other s).kind) :
    (blame node cause).mapError WalkError.kind = (blame node other).mapError WalkError.kind := by
  unfold blame
  cases Schema.infer node with
  | error e => rfl
  | ok schema =>
    exact congrArg (fun kind => Except.error (ResolveKind.unresolved kind)) (same schema)

/-- A hop does not depend on how its node was reached. -/
theorem kind_hop (place place' : String) (node : Value) (segment : Segment) :
    (hop place node segment).mapError WalkError.kind =
      (hop place' node segment).mapError WalkError.kind := by
  cases segment <;> cases node <;> simp only [hop] <;>
    first
      | rfl
      | exact kind_blame _ fun _ => rfl
      | split <;> first | rfl | exact kind_blame _ fun _ => rfl

theorem kind_walk (place place' : String) (node : Value) (segments : List Segment) :
    (walk place node segments).mapError WalkError.kind =
      (walk place' node segments).mapError WalkError.kind := by
  induction segments generalizing place place' node with
  | nil => rfl
  | cons segment segments ih =>
    have first := kind_hop place place' node segment
    rw [walk, walk]
    cases here : hop place node segment <;> cases there : hop place' node segment <;>
      rw [here, there] at first
    · exact first
    · cases first
    · cases first
    · cases first
      exact ih ..

end Path
end Workflow
