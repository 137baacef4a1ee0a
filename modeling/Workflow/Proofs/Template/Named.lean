import Workflow.Proofs.Template.Placeholders

/-!
What resolution reads of the outputs. A value names the steps that its placeholders are paths from,
and what it resolves to, or why it does not, depends on nothing but what is stored under these
names. Where it resolves, it needs all of them. Texts, placeholders and names of a value can be
listed.
-/
namespace Workflow
namespace Piece

/-- The expression of a placeholder. -/
def expression? : Piece → Option (List Char)
  | placeholder expression => some expression
  | literal _ => none

end Piece

namespace Value

mutual

/-- The texts in a value. -/
def texts : Value → List String
  | str text => [text]
  | list items => textsOfItems items
  | tuple items => textsOfItems items
  | dict entries => textsOfEntries entries
  | keyed _ values => textsOfItems values
  | _ => []

def textsOfItems : List Value → List String
  | [] => []
  | item :: rest => texts item ++ textsOfItems rest

def textsOfEntries : List (String × Value) → List String
  | [] => []
  | (_, value) :: rest => texts value ++ textsOfEntries rest

end

mutual

theorem mem_texts_iff (text : String) : ∀ v : Value, text ∈ v.texts ↔ v.Holds text
  | null | bool _ | int _ | float _ | foreign .. | unreadable _ => by
    simp only [texts, List.not_mem_nil, false_iff]
    rintro ⟨⟩
  | str other => by
    rw [texts, List.mem_singleton]
    exact ⟨by rintro rfl; exact .here, by rintro ⟨⟩; rfl⟩
  | list items => by
    rw [texts, mem_textsOfItems_iff text items]
    exact ⟨fun ⟨_, member, held⟩ => .item member held, by rintro ⟨⟩; exact ⟨_, ‹_›, ‹_›⟩⟩
  | tuple items => by
    rw [texts, mem_textsOfItems_iff text items]
    exact ⟨fun ⟨_, member, held⟩ => .place member held, by rintro ⟨⟩; exact ⟨_, ‹_›, ‹_›⟩⟩
  | dict entries => by
    rw [texts, mem_textsOfEntries_iff text entries]
    exact ⟨fun ⟨_, _, member, held⟩ => .entry member held, by rintro ⟨⟩; exact ⟨_, _, ‹_›, ‹_›⟩⟩
  | keyed keys values => by
    rw [texts, mem_textsOfItems_iff text values]
    exact ⟨fun ⟨_, member, held⟩ => .keyed member held, by rintro ⟨⟩; exact ⟨_, ‹_›, ‹_›⟩⟩

theorem mem_textsOfItems_iff (text : String) : ∀ items : List Value,
    text ∈ textsOfItems items ↔ ∃ item ∈ items, item.Holds text
  | [] => by simp [textsOfItems]
  | item :: rest => by
    simp [textsOfItems, mem_texts_iff text item, mem_textsOfItems_iff text rest]

theorem mem_textsOfEntries_iff (text : String) : ∀ entries : List (String × Value),
    text ∈ textsOfEntries entries ↔ ∃ key value, (key, value) ∈ entries ∧ value.Holds text
  | [] => by simp [textsOfEntries]
  | (key, value) :: rest => by
    rw [textsOfEntries, List.mem_append, mem_texts_iff text value, mem_textsOfEntries_iff text rest]
    constructor
    · rintro (held | ⟨other, value', member, held⟩)
      · exact ⟨key, value, by simp, held⟩
      · exact ⟨other, value', List.mem_cons_of_mem _ member, held⟩
    · rintro ⟨other, value', member, held⟩
      rcases List.mem_cons.1 member with same | member
      · cases same
        exact .inl held
      · exact .inr ⟨other, value', member, held⟩

end

end Value

theorem lookup_congr (expression : String) {outputs outputs' : Outputs}
    (agree : ∀ path, Path.parse (Text.trim expression) = .ok path →
      outputs.lookup path.step = outputs'.lookup path.step) :
    lookup expression outputs = lookup expression outputs' := by
  unfold lookup
  dsimp only
  cases parsed : Path.parse (Text.trim expression) with
  | error cause => cases cause <;> rfl
  | ok path => simp only [agree path parsed]

namespace Template

/-- A placeholder stands in a string of a value. -/
def HasPlaceholder (expression : List Char) (v : Value) : Prop :=
  ∃ text before after, v.Holds text ∧
    text.toList = before ++ (Piece.braced expression ++ after) ∧ Piece.Plain expression

/-- A placeholder of a value is a path from a step. -/
def Names (v : Value) (id : String) : Prop :=
  ∃ expression path, HasPlaceholder expression v ∧
    Path.parse (Text.trim (String.ofList expression)) = .ok path ∧ path.step = id

/-- The expressions of the placeholders in a value. -/
def placeholders (v : Value) : List (List Char) :=
  v.texts.flatMap fun text => (Piece.ofChars text.toList).filterMap Piece.expression?

theorem mem_placeholders_iff (expression : List Char) (v : Value) :
    expression ∈ placeholders v ↔ HasPlaceholder expression v := by
  have found (pieces : List Piece) :
      expression ∈ pieces.filterMap Piece.expression? ↔ .placeholder expression ∈ pieces := by
    rw [List.mem_filterMap]
    constructor
    · rintro ⟨piece, member, same⟩
      cases piece with
      | literal text => cases same
      | placeholder other => cases same; exact member
    · exact fun member => ⟨_, member, rfl⟩
  simp only [placeholders, List.mem_flatMap, Value.mem_texts_iff, found, Piece.mem_ofChars_iff]
  constructor
  · rintro ⟨text, held, plain, before, after, split⟩
    exact ⟨text, before, after, held, split, plain⟩
  · rintro ⟨text, before, after, held, split, plain⟩
    exact ⟨text, held, plain, before, after, split⟩

/-- The ids of the steps that the placeholders of a value are paths from. -/
def namedSteps (v : Value) : List String :=
  (placeholders v).filterMap fun expression =>
    (Path.parse (Text.trim (String.ofList expression))).toOption.map Path.step

theorem mem_namedSteps_iff (id : String) (v : Value) : id ∈ namedSteps v ↔ Names v id := by
  simp only [namedSteps, List.mem_filterMap, mem_placeholders_iff, Option.map_eq_some_iff,
    Success.toOption_eq_some_iff]
  constructor
  · rintro ⟨expression, has, path, parsed, step⟩
    exact ⟨expression, path, has, parsed, step⟩
  · rintro ⟨expression, path, has, parsed, step⟩
    exact ⟨expression, has, path, parsed, step⟩

/-- Two stores hold the same under every name in a value, or both hold nothing there. -/
def Agree (v : Value) (outputs outputs' : Outputs) : Prop :=
  ∀ id, Names v id → outputs.lookup id = outputs'.lookup id

theorem HasPlaceholder.of_holds {expression : List Char} {v w : Value}
    (inside : ∀ text, v.Holds text → w.Holds text) (has : HasPlaceholder expression v) :
    HasPlaceholder expression w := by
  obtain ⟨text, before, after, held, split, plain⟩ := has
  exact ⟨text, before, after, inside text held, split, plain⟩

section
variable {outputs outputs' : Outputs}

theorem Agree.of_holds {v w : Value} (agree : Agree w outputs outputs')
    (inside : ∀ text, v.Holds text → w.Holds text) : Agree v outputs outputs' := by
  rintro id ⟨expression, path, has, parsed, step⟩
  exact agree id ⟨expression, path, has.of_holds inside, parsed, step⟩

theorem pieceText_congr {text : String} (agree : Agree (.str text) outputs outputs')
    (piece : Piece) (member : piece ∈ Piece.ofChars text.toList) :
    pieceText outputs piece = pieceText outputs' piece := by
  cases piece with
  | literal text => rfl
  | placeholder expression =>
    obtain ⟨plain, before, after, split⟩ := (Piece.mem_ofChars_iff ..).1 member
    have same := lookup_congr (String.ofList expression) fun path parsed =>
      agree path.step ⟨expression, path, ⟨text, before, after, .here, split, plain⟩, parsed, rfl⟩
    simp only [pieceText, same]

theorem pieceTexts_congr {pieces : List Piece}
    (same : ∀ piece ∈ pieces, pieceText outputs piece = pieceText outputs' piece) :
    pieceTexts outputs pieces = pieceTexts outputs' pieces := by
  induction pieces with
  | nil => rfl
  | cons piece rest ih =>
    rw [pieceTexts, pieceTexts, same piece (by simp),
      ih fun other member => same other (List.mem_cons_of_mem piece member)]

theorem resolveText_congr {text : String} (agree : Agree (.str text) outputs outputs') :
    resolveText text outputs = resolveText text outputs' := by
  have filled := pieceTexts_congr (pieceText_congr agree)
  unfold resolveText
  split
  next expression only =>
    have member : Piece.placeholder expression ∈ Piece.ofChars text.toList := by simp [only]
    obtain ⟨plain, before, after, split⟩ := (Piece.mem_ofChars_iff ..).1 member
    rw [lookup_congr _ fun path parsed =>
      agree path.step ⟨expression, path, ⟨text, before, after, .here, split, plain⟩, parsed, rfl⟩]
  · rw [fill, fill, filled]

mutual

/-- A value resolves in the same way against all stores that agree on what it names. -/
theorem resolve_congr : ∀ v : Value, Agree v outputs outputs' →
    resolve outputs v = resolve outputs' v
  | .null, _ | .bool _, _ | .int _, _ | .float _, _ | .foreign .., _ | .unreadable _, _ => rfl
  | .str _, agree => resolveText_congr agree
  | .list items, agree => by
    rw [resolve, resolve,
      resolveItems_congr items fun item member => agree.of_holds fun text => .item member]
  | .tuple items, agree => by
    rw [resolve, resolve,
      resolveItems_congr items fun item member => agree.of_holds fun text => .place member]
  | .dict entries, agree => by
    rw [resolve, resolve, resolveEntries_congr entries fun key value member =>
      agree.of_holds fun text => .entry member]
  | .keyed keys values, agree => by
    rw [resolve, resolve,
      resolveItems_congr values fun value member => agree.of_holds fun text => .keyed member]

theorem resolveItems_congr : ∀ items : List Value,
    (∀ item ∈ items, Agree item outputs outputs') →
      resolveItems outputs items = resolveItems outputs' items
  | [], _ => rfl
  | item :: rest, agree => by
    rw [resolveItems, resolveItems, resolve_congr item (agree item (by simp)),
      resolveItems_congr rest fun other member => agree other (List.mem_cons_of_mem item member)]

theorem resolveEntries_congr : ∀ entries : List (String × Value),
    (∀ key value, (key, value) ∈ entries → Agree value outputs outputs') →
      resolveEntries outputs entries = resolveEntries outputs' entries
  | [], _ => rfl
  | (key, value) :: rest, agree => by
    rw [resolveEntries, resolveEntries, resolve_congr value (agree key value (by simp)),
      resolveEntries_congr rest fun other value' member =>
        agree other value' (List.mem_cons_of_mem (key, value) member)]

end

/-- Where a value resolves, there is an output under every name in it. -/
theorem mem_keys_of_resolve {v w : Value} {id : String} (success : resolve outputs v = .ok w)
    (named : Names v id) : id ∈ Entries.keys outputs := by
  obtain ⟨expression, path, ⟨text, before, after, held, split, plain⟩, parsed, rfl⟩ := named
  obtain ⟨resolved, success⟩ := resolveText_of_resolve held success
  obtain ⟨found, looked⟩ :=
    lookup_of_resolveText success ((Piece.mem_ofChars_iff ..).2 ⟨plain, before, after, split⟩)
  obtain ⟨other, parsed', member⟩ := from_of_lookup looked
  rw [parsed, Except.ok.injEq] at parsed'
  subst parsed'
  exact member

/-- Of the outputs that a value resolves against, those that it names must stay and no other. -/
theorem resolve_filter_iff {v w : Value} (success : resolve outputs v = .ok w)
    (kept : String → Bool) :
    resolve (outputs.filter (kept ·.1)) v = .ok w ↔ ∀ id, Names v id → kept id = true := by
  constructor
  · intro success id named
    obtain ⟨value, stored⟩ := Entries.mem_keys_iff.1 (mem_keys_of_resolve success named)
    by_contra dropped
    rw [Entries.lookup_filter, if_neg dropped] at stored
    cases stored
  · intro stays
    have agree : Agree v (outputs.filter (kept ·.1)) outputs := by
      intro id named
      rw [Entries.lookup_filter, if_pos (stays id named)]
    rw [resolve_congr v agree, success]

end

/-- Resolution depends on nothing but what is stored under the ids that placeholders of the value
name. Against two stores that agree on these, by presence and by value, it comes to the same value
or to the same error, which is its kind, its expression and its text. Where it succeeds each of
these ids counts: the same comes of some of the outputs exactly if all that are named stay. -/
theorem resolves_by_named_outputs (v : Value) :
    (∀ outputs outputs' : Outputs,
      (∀ id, Names v id → outputs.lookup id = outputs'.lookup id) →
        (∃ w, resolve outputs v = .ok w ∧ resolve outputs' v = .ok w) ∨
          ∃ e, resolve outputs v = .error e ∧ resolve outputs' v = .error e) ∧
      ∀ (outputs : Outputs) (w : Value) (kept : String → Bool), resolve outputs v = .ok w →
        (resolve (outputs.filter (kept ·.1)) v = .ok w ↔ ∀ id, Names v id → kept id = true) := by
  refine ⟨fun outputs outputs' agree => ?_, fun outputs w kept success => ?_⟩
  · have same : resolve outputs v = resolve outputs' v := resolve_congr v agree
    cases result : resolve outputs v with
    | ok w => exact .inl ⟨w, rfl, by rw [← same, result]⟩
    | error e => exact .inr ⟨e, rfl, by rw [← same, result]⟩
  · exact resolve_filter_iff success kept

/-- Stores that differ in their order and in an output that no placeholder names. A second value
names an id that both stores lack, and holds a placeholder that is no path. -/
theorem resolves_by_named_outputs_unnamed :
    let v : Value := .dict [("x", .list [.str "\x7b\x7ba.k\x7d\x7d",
      .tuple [.str "n=\x7b\x7b b[0] \x7d\x7d"]])]
    let lacking : Value := .list [.str "\x7b\x7ba.k\x7d\x7d\x7b\x7b c.k \x7d\x7d\x7b\x7b\x7d\x7d"]
    let outputs : Outputs := [("a", .dict [("k", .int 1)]), ("b", .list [.null]), ("d", .null)]
    let outputs' : Outputs := [("b", .list [.null]), ("d", .int 2), ("a", .dict [("k", .int 1)])]
    (∀ id, Names v id → outputs.lookup id = outputs'.lookup id) ∧
      (∃ w, resolve outputs v = .ok w ∧ resolve outputs' v = .ok w) ∧
      (∃ e, resolve outputs lacking = .error e ∧ resolve outputs' lacking = .error e) ∧
      resolve (outputs.filter (·.1 != "d")) v =
        .ok (.dict [("x", .list [.int 1, .list [.str "n=null"]])]) := by
  intro v lacking outputs outputs'
  have named : namedSteps v = ["a", "b"] := by decide
  have named' : namedSteps lacking = ["a", "c"] := by decide
  have agree : ∀ id, Names v id → outputs.lookup id = outputs'.lookup id := by
    simp only [← mem_namedSteps_iff, named, List.forall_mem_cons]
    exact ⟨rfl, rfl, nofun⟩
  have agree' : ∀ id, Names lacking id → outputs.lookup id = outputs'.lookup id := by
    simp only [← mem_namedSteps_iff, named', List.forall_mem_cons]
    exact ⟨rfl, rfl, nofun⟩
  have stays : ∀ id, Names v id → (id != "d") = true := by
    simp only [← mem_namedSteps_iff, named, List.forall_mem_cons]
    exact ⟨rfl, rfl, nofun⟩
  have success : resolve outputs v =
      .ok (.dict [("x", .list [.int 1, .list [.str "n=null"]])]) := rfl
  have failure : resolve outputs lacking = .error (.unresolved ⟨"c.k", .notExecuted "c"⟩) := rfl
  obtain ⟨alike, restricted⟩ := resolves_by_named_outputs v
  refine ⟨agree, ?_, ?_, (restricted outputs _ (· != "d") success).2 stays⟩
  · obtain found | ⟨e, failed, _⟩ := alike outputs outputs' agree
    · exact found
    · rw [success] at failed
      cases failed
  · obtain ⟨w, found, _⟩ | failed := (resolves_by_named_outputs lacking).1 outputs outputs' agree'
    · rw [failure] at found
      cases found
    · exact failed

end Template
end Workflow
