import Workflow.Proofs.Success
import Workflow.Proofs.Template.Pieces

/-!
Placeholders and the steps they name. A value resolves only if each placeholder in a string inside
it can be looked up, for which its expression has to parse and name a step with an output.
-/
namespace Workflow
/-- A text stands in a value, at any depth of items and entries. -/
inductive Value.Holds (text : String) : Value → Prop
  | here : Holds text (.str text)
  | item {items : List Value} {item : Value} :
    item ∈ items → Holds text item → Holds text (.list items)
  | place {items : List Value} {item : Value} :
    item ∈ items → Holds text item → Holds text (.tuple items)
  | entry {entries : List (String × Value)} {key : String} {value : Value} :
    (key, value) ∈ entries → Holds text value → Holds text (.dict entries)
  | keyed {keys : List Key} {values : List Value} {value : Value} :
    value ∈ values → Holds text value → Holds text (.keyed keys values)

/-- An expression is a path from one of some steps. -/
def Path.From (ids : List String) (expression : String) : Prop :=
  ∃ path, parse (Text.trim expression) = .ok path ∧ path.step ∈ ids

/-- Only paths from steps with outputs can be looked up. -/
theorem from_of_lookup {outputs : Outputs} {expression : String} {found : Value}
    (success : lookup expression outputs = .ok found) :
    Path.From (Entries.keys outputs) expression := by
  unfold lookup at success
  dsimp only at success
  split at success
  · cases success
  · cases success
  next path parsed =>
    split at success
    · cases success
    next node stored =>
      exact ⟨path, parsed, List.mem_map_of_mem (Entries.mem_of_lookup stored)⟩

namespace Template

/-- A value holds a placeholder whose expression is no path from one of some steps. -/
def Dangling (ids : List String) (v : Value) : Prop :=
  ∃ text before expression after, v.Holds text ∧
    text.toList = before ++ (Piece.braced expression ++ after) ∧ Piece.Plain expression ∧
    ¬Path.From ids (String.ofList expression)

variable {outputs : Outputs}

theorem pieceText_of_pieceTexts {pieces : List Piece} {texts : List String} {piece : Piece}
    (success : pieceTexts outputs pieces = .ok texts) (member : piece ∈ pieces) :
    ∃ text, pieceText outputs piece = .ok text := by
  induction pieces generalizing texts with
  | nil => cases member
  | cons first rest ih =>
    obtain ⟨text, shown, success⟩ := Success.bind_ok success
    obtain ⟨others, rest, _⟩ := Success.bind_ok success
    cases member with
    | head => exact ⟨text, shown⟩
    | tail _ member => exact ih rest member

theorem lookup_of_resolveText {text : String} {resolved : Value} {expression : List Char}
    (success : resolveText text outputs = .ok resolved)
    (member : .placeholder expression ∈ Piece.ofChars text.toList) :
    ∃ found, lookup (String.ofList expression) outputs = .ok found := by
  unfold resolveText at success
  split at success
  next only pieces =>
    obtain ⟨found, looked, _⟩ := Success.bind_ok success
    rw [pieces, List.mem_singleton, Piece.placeholder.injEq] at member
    subst member
    exact ⟨found, looked⟩
  next pieces =>
    obtain ⟨filled, success, _⟩ := Success.map_ok success
    obtain ⟨texts, success, _⟩ := Success.map_ok success
    obtain ⟨text, shown⟩ := pieceText_of_pieceTexts success member
    obtain ⟨found, looked, _⟩ := Success.bind_ok shown
    exact ⟨found, looked⟩

theorem resolve_of_resolveItems {items resolved : List Value} {item : Value}
    (success : resolveItems outputs items = .ok resolved) (member : item ∈ items) :
    ∃ w, resolve outputs item = .ok w := by
  induction items generalizing resolved with
  | nil => cases member
  | cons first rest ih =>
    rw [resolveItems] at success
    obtain ⟨w, head, success⟩ := Success.bind_ok success
    obtain ⟨others, rest, _⟩ := Success.bind_ok success
    cases member with
    | head => exact ⟨w, head⟩
    | tail _ member => exact ih rest member

theorem resolve_of_resolveEntries {entries resolved : List (String × Value)} {key : String}
    {value : Value} (success : resolveEntries outputs entries = .ok resolved)
    (member : (key, value) ∈ entries) : ∃ w, resolve outputs value = .ok w := by
  induction entries generalizing resolved with
  | nil => cases member
  | cons first rest ih =>
    rw [resolveEntries] at success
    obtain ⟨w, head, success⟩ := Success.bind_ok success
    obtain ⟨others, rest, _⟩ := Success.bind_ok success
    cases member with
    | head => exact ⟨w, head⟩
    | tail _ member => exact ih rest member

/-- Where a value resolves, so does each text in it. -/
theorem resolveText_of_resolve {text : String} {v w : Value} (held : v.Holds text)
    (success : resolve outputs v = .ok w) :
    ∃ resolved, resolveText text outputs = .ok resolved := by
  induction held generalizing w with
  | here => exact ⟨w, by simpa only [resolve] using success⟩
  | item member _ ih =>
    rw [resolve] at success
    obtain ⟨_, success, _⟩ := Success.map_ok success
    obtain ⟨_, success⟩ := resolve_of_resolveItems success member
    exact ih success
  | place member _ ih =>
    rw [resolve] at success
    obtain ⟨_, success, _⟩ := Success.map_ok success
    obtain ⟨_, success⟩ := resolve_of_resolveItems success member
    exact ih success
  | entry member _ ih =>
    rw [resolve] at success
    obtain ⟨_, success, _⟩ := Success.map_ok success
    obtain ⟨_, success⟩ := resolve_of_resolveEntries success member
    exact ih success
  | keyed member _ ih =>
    rw [resolve] at success
    obtain ⟨_, success, _⟩ := Success.map_ok success
    obtain ⟨_, success⟩ := resolve_of_resolveItems success member
    exact ih success

/-- A value with a dangling placeholder does not resolve, whatever else it holds. -/
theorem resolve_of_dangling {ids : List String} {v : Value} (dangling : Dangling ids v)
    (known : Entries.keys outputs ⊆ ids) : ∃ e, resolve outputs v = .error e := by
  obtain ⟨text, before, expression, after, held, split, plain, astray⟩ := dangling
  cases success : resolve outputs v with
  | error e => exact ⟨e, rfl⟩
  | ok w =>
    exfalso
    obtain ⟨resolved, success⟩ := resolveText_of_resolve held success
    have member := Piece.mem_ofChars plain before after
    rw [← split] at member
    obtain ⟨found, looked⟩ := lookup_of_resolveText success member
    obtain ⟨path, parsed, step⟩ := from_of_lookup looked
    exact astray ⟨path, parsed, known step⟩

end Template
end Workflow
