import Workflow.Value

/-!
Equality of values can be computed. The comparison goes through lists and entries side by side, so
closed statements about values are settled by evaluation.
-/
namespace Workflow.Value

mutual

/-- Whether two values are the same. -/
def same : Value → Value → Bool
  | null, null => true
  | bool a, bool b => a == b
  | int m, int n => m == n
  | float x, float y => x == y
  | str s, str t => s == t
  | list items, list others => sameItems items others
  | tuple items, tuple others => sameItems items others
  | dict entries, dict others => sameEntries entries others
  | keyed keys values, keyed keys' values' => keys == keys' && sameItems values values'
  | foreign object, foreign object' => object == object'
  | unreadable m, unreadable n => m == n
  | _, _ => false

def sameItems : List Value → List Value → Bool
  | [], [] => true
  | item :: rest, other :: others => same item other && sameItems rest others
  | _, _ => false

def sameEntries : List (String × Value) → List (String × Value) → Bool
  | [], [] => true
  | (key, value) :: rest, (key', value') :: others =>
    key == key' && same value value' && sameEntries rest others
  | _, _ => false

end

mutual

theorem same_iff (v w : Value) : same v w = true ↔ v = w := by
  cases v with
  | list items => cases w <;> simp [same, sameItems_iff items]
  | tuple items => cases w <;> simp [same, sameItems_iff items]
  | dict entries => cases w <;> simp [same, sameEntries_iff entries]
  | keyed keys values => cases w <;> simp [same, sameItems_iff values]
  | _ => cases w <;> simp [same]

theorem sameItems_iff (items others : List Value) :
    sameItems items others = true ↔ items = others := by
  cases items with
  | nil => cases others <;> simp [sameItems]
  | cons item rest =>
    cases others with
    | nil => simp [sameItems]
    | cons other others => simp [sameItems, same_iff item, sameItems_iff rest]

theorem sameEntries_iff (entries others : List (String × Value)) :
    sameEntries entries others = true ↔ entries = others := by
  cases entries with
  | nil => cases others <;> simp [sameEntries]
  | cons entry rest =>
    obtain ⟨key, value⟩ := entry
    cases others with
    | nil => simp [sameEntries]
    | cons other others =>
      obtain ⟨key', value'⟩ := other
      simp [sameEntries, same_iff value, sameEntries_iff rest]

end

instance : DecidableEq Value := fun v w => decidable_of_iff _ (same_iff v w)

end Workflow.Value
