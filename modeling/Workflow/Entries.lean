/-!
String-keyed entries in order of first insertion. `List.lookup` reads them.
-/
namespace Workflow.Entries

variable {α β : Type}

/-- Replaces the value of a key in place, or appends a new entry. -/
def put (key : String) (value : α) : List (String × α) → List (String × α)
  | [] => [(key, value)]
  | (k, v) :: rest => if k = key then (k, value) :: rest else (k, v) :: put key value rest

/-- Inserts one after the other: the last value of a key stays, at its first position. -/
def ofPairs (pairs : List (String × α)) : List (String × α) :=
  pairs.foldl (fun entries pair => put pair.1 pair.2 entries) []

def keys (entries : List (String × α)) : List String := entries.map (·.1)

def has (key : String) (entries : List (String × α)) : Bool := (entries.lookup key).isSome

theorem lookup_put (key other : String) (value : α) (entries : List (String × α)) :
    (put key value entries).lookup other =
      if other = key then some value else entries.lookup other := by
  induction entries with
  | nil => simp only [put, List.lookup_cons, List.lookup_nil]; grind
  | cons entry rest ih =>
    obtain ⟨k, v⟩ := entry
    by_cases held : k = key
    · simp only [put, held, if_true, List.lookup_cons]; grind
    · simp only [put, held, if_false, List.lookup_cons, ih]; grind

theorem put_of_not_mem (key : String) (value : α) (entries : List (String × α))
    (fresh : key ∉ keys entries) : put key value entries = entries ++ [(key, value)] := by
  induction entries with
  | nil => rfl
  | cons entry rest ih =>
    obtain ⟨k, v⟩ := entry
    simp only [keys, List.map_cons, List.mem_cons, not_or] at fresh
    rw [put, if_neg (Ne.symm fresh.1), ih fresh.2, List.cons_append]

/-- Of several values under one key the last one counts. -/
theorem lookup_ofPairs (key : String) (pairs : List (String × α)) :
    (ofPairs pairs).lookup key = pairs.reverse.lookup key := by
  have onto (entries : List (String × α)) :
      (pairs.foldl (fun entries pair => put pair.1 pair.2 entries) entries).lookup key =
        (pairs.reverse.lookup key).or (entries.lookup key) := by
    induction pairs generalizing entries with
    | nil => rfl
    | cons pair rest ih =>
      rw [List.foldl_cons, ih, lookup_put, List.reverse_cons, List.lookup_append, Option.or_assoc,
        List.lookup_cons, List.lookup_nil]
      by_cases held : key = pair.1
      · simp [held]
      · simp [held, beq_eq_false_iff_ne.2 held]
  rw [ofPairs, onto, List.lookup_nil, Option.or_none]

theorem mem_put {key : String} {value : α} {entry : String × α} {entries : List (String × α)}
    (member : entry ∈ put key value entries) : entry = (key, value) ∨ entry ∈ entries := by
  induction entries with
  | nil => exact .inl (List.mem_singleton.1 member)
  | cons first rest ih =>
    by_cases held : first.1 = key
    · simp only [put, held, if_true, List.mem_cons] at member
      exact member.imp_right (List.mem_cons_of_mem first)
    · simp only [put, held, if_false, List.mem_cons] at member
      rcases member with rfl | later
      · exact .inr List.mem_cons_self
      · exact (ih later).imp_right (List.mem_cons_of_mem first)

/-- Only what was inserted stands among the entries. -/
theorem mem_of_ofPairs {entry : String × α} {pairs : List (String × α)}
    (member : entry ∈ ofPairs pairs) : entry ∈ pairs := by
  have onto (pairs entries : List (String × α))
      (member : entry ∈ pairs.foldl (fun entries pair => put pair.1 pair.2 entries) entries) :
      entry ∈ entries ∨ entry ∈ pairs := by
    induction pairs generalizing entries with
    | nil => exact .inl member
    | cons pair rest ih =>
      rcases ih _ member with held | later
      · exact (mem_put held).symm.imp_right fun same => List.mem_cons.2 (.inl same)
      · exact .inr (List.mem_cons_of_mem pair later)
  exact (onto pairs [] member).resolve_left List.not_mem_nil

/-- A new key goes to the end, a known one keeps its place. -/
theorem keys_put (key : String) (value : α) (entries : List (String × α)) :
    keys (put key value entries) =
      if key ∈ keys entries then keys entries else keys entries ++ [key] := by
  induction entries with
  | nil => simp [put, keys]
  | cons entry rest ih =>
    obtain ⟨k, v⟩ := entry
    by_cases held : k = key
    · subst held
      simp [put, keys]
    · have shown : keys ((k, v) :: put key value rest) = k :: keys (put key value rest) := rfl
      have spread : keys ((k, v) :: rest) = k :: keys rest := rfl
      simp only [put, held, if_false, shown, spread, ih, List.mem_cons, Ne.symm held, false_or]
      split <;> simp

theorem mem_keys_iff {key : String} {entries : List (String × α)} :
    key ∈ keys entries ↔ ∃ value, entries.lookup key = some value := by
  induction entries with
  | nil => simp [keys]
  | cons entry rest ih =>
    obtain ⟨k, v⟩ := entry
    rw [keys, List.map_cons, List.mem_cons, ← keys, ih, List.lookup_cons]
    by_cases held : key = k
    · simp [held]
    · simp [held, beq_eq_false_iff_ne.2 held]

/-- Among the entries of some keys the same is found under these, and nothing under the others. -/
theorem lookup_filter (kept : String → Bool) (key : String) (entries : List (String × α)) :
    (entries.filter (kept ·.1)).lookup key = if kept key then entries.lookup key else none := by
  induction entries with
  | nil => simp
  | cons entry rest ih =>
    obtain ⟨k, v⟩ := entry
    by_cases held : key = k
    · subst held
      cases stays : kept key <;> simp [stays, ih]
    · have other : (key == k) = false := beq_eq_false_iff_ne.2 held
      cases stays : kept k <;> simp [stays, List.lookup_cons, other, ih]

/-- What is found under a key stands there. -/
theorem mem_of_lookup {key : String} {value : α} {entries : List (String × α)}
    (found : entries.lookup key = some value) : (key, value) ∈ entries := by
  obtain ⟨before, after, rfl, _⟩ := List.lookup_eq_some_iff.1 found
  exact List.mem_append_right before List.mem_cons_self

/-- What stands under a key is found there if no key stands twice. -/
theorem lookup_of_mem {key : String} {value : α} {entries : List (String × α)}
    (distinct : (keys entries).Nodup) (member : (key, value) ∈ entries) :
    entries.lookup key = some value := by
  induction entries with
  | nil => cases member
  | cons entry rest ih =>
    obtain ⟨k, v⟩ := entry
    obtain ⟨absent, distinct⟩ := List.nodup_cons.1 distinct
    rw [List.lookup_cons]
    rcases List.mem_cons.1 member with same | later
    · cases same
      simp
    · have other : key ≠ k := by
        rintro rfl
        exact absent (List.mem_map.2 ⟨_, later, rfl⟩)
      rw [beq_eq_false_iff_ne.2 other]
      exact ih distinct later

end Workflow.Entries
