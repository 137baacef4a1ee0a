import Workflow.Proofs.Path.Followed
import Workflow.Proofs.Path.Spelling

/-!
Where a lookup fails. What it reports names the place of the node that it got to, and this place is
a path of its own: it leads to that node, however the expression was written. The summary and the
length that are reported are those of the node.
-/
namespace Workflow.Path

/-- What is reported of a hop that a node refuses, with the place of the node and its summary. -/
inductive Refuses (place : String) (schema : Schema) : Value → Segment → ResolutionCause → Prop
  | noProperty {node : Value} {entries : List (String × Value)} {segment : Segment}
    (named : ∀ index, segment ≠ .bracket index) (object : node.shownEntries? = some entries)
    (absent : entries.lookup segment.text = none) :
    Refuses place schema node segment (.missingProperty segment.text place schema)
  | nameInList (items : List Value) (name : String) :
    Refuses place schema (.list items) (.key name)
      (.propertyOfArray name place items.length schema)
  | beyond {items : List Value} {segment : Segment} {index : Nat}
    (position : segment = .dotted index ∨ segment = .bracket index)
    (past : items.length ≤ index) :
    Refuses place schema (.list items) segment (.indexOutOfRange index items.length schema)
  | noObject {node : Value} {segment : Segment} (named : ∀ index, segment ≠ .bracket index)
    (unlisted : ∀ items, node ≠ .list items) (object : node.isObject = false) :
    Refuses place schema node segment (.primitive segment place schema)
  | noList {node : Value} (index : Nat) (unlisted : ∀ items, node ≠ .list items) :
    Refuses place schema node (.bracket index) (.notArray index place schema)

/-- A text is a path, and the walk along it leads from what its step stored to a node. Blanks belong
to the text. -/
def Leads (outputs : Outputs) (text : String) (node : Value) : Prop :=
  ∃ path start, parse text = .ok path ∧ outputs.lookup path.step = some start ∧
    walk path.step start (skipResult start path.segments) = .ok node

/-- The lookup of an expression gets to a node by all hops before a segment, and no further: the
node refuses this segment. The place is the written form of the hops that were made. -/
def FailsAt (outputs : Outputs) (expression place : String) (node : Value) (segment : Segment) :
    Prop :=
  ∃ path start before behind, Denotes expression path ∧ outputs.lookup path.step = some start ∧
    path.segments = before ++ segment :: behind ∧
    skipResult start path.segments = skipResult start before ++ segment :: behind ∧
    walk path.step start (skipResult start before) = .ok node ∧
    (∀ elsewhere, ∃ e, hop elsewhere node segment = .error e) ∧
    place = spell ⟨path.step, skipResult start before⟩

/-! ### Hops -/

theorem blame_cause {node : Value} {cause : ResolutionCause} {report : Schema → ResolutionCause}
    (failed : blame node report = .error (.cause cause)) :
    ∃ schema, Schema.infer node = .ok schema ∧ cause = report schema := by
  unfold blame at failed
  split at failed
  next schema inferred =>
    cases failed
    exact ⟨schema, inferred, rfl⟩
  next => cases failed

theorem itemAt_cause {items : List Value} {index : Nat} {cause : ResolutionCause}
    (failed : itemAt items index = .error (.cause cause)) :
    items.length ≤ index ∧ ∃ schema, Schema.infer (.list items) = .ok schema ∧
      cause = .indexOutOfRange index items.length schema := by
  unfold itemAt at failed
  split at failed
  next => cases failed
  next none => exact ⟨List.getElem?_eq_none_iff.1 none, blame_cause failed⟩

/-- A hop that fails reports the node that it fails at. -/
theorem refuses_of_hop {place : String} {node : Value} {segment : Segment} {cause : ResolutionCause}
    (failed : hop place node segment = .error (.cause cause)) :
    ∃ schema, Schema.infer node = .ok schema ∧ Refuses place schema node segment cause := by
  unfold hop at failed
  split at failed
  next index items =>
    obtain ⟨past, schema, inferred, rfl⟩ := itemAt_cause failed
    exact ⟨schema, inferred, .beyond (.inr rfl) past⟩
  next index unlisted =>
    obtain ⟨schema, inferred, rfl⟩ := blame_cause failed
    exact ⟨schema, inferred, .noList index fun items => unlisted items⟩
  next index items =>
    obtain ⟨past, schema, inferred, rfl⟩ := itemAt_cause failed
    exact ⟨schema, inferred, .beyond (.inl rfl) past⟩
  next name items =>
    obtain ⟨schema, inferred, rfl⟩ := blame_cause failed
    exact ⟨schema, inferred, .nameInList items name⟩
  next entries named =>
    split at failed
    next => cases failed
    next absent =>
      obtain ⟨schema, inferred, rfl⟩ := blame_cause failed
      exact ⟨schema, inferred, .noProperty (fun index => named index) rfl absent⟩
  next keys values named =>
    split at failed
    next => cases failed
    next absent =>
      obtain ⟨schema, inferred, rfl⟩ := blame_cause failed
      exact ⟨schema, inferred, .noProperty (fun index => named index) rfl absent⟩
  next =>
    obtain ⟨schema, inferred, _⟩ := blame_cause failed
    cases inferred
  next named noEntries noKeys readable _ noPosition noName =>
    obtain ⟨schema, inferred, rfl⟩ := blame_cause failed
    refine ⟨schema, inferred, .noObject (fun index => named index) (fun items same => ?_) ?_⟩
    · cases segment with
      | key name => exact noName name items rfl same
      | dotted index => exact noPosition index items rfl same
      | bracket index => exact named index rfl
    · cases node with
      | dict entries => exact absurd rfl (noEntries entries)
      | keyed keys values => exact absurd rfl (noKeys keys values)
      | unreadable message => exact absurd rfl (readable message)
      | _ => rfl

/-! ### Walks -/

/-- A hop that one place reports as refused is refused at every place. -/
theorem refused_elsewhere {place : String} {node : Value} {segment : Segment} {e : WalkError}
    (failed : hop place node segment = .error e) (elsewhere : String) :
    ∃ e', hop elsewhere node segment = .error e' := by
  cases there : hop elsewhere node segment with
  | error e' => exact ⟨e', rfl⟩
  | ok next =>
    rw [(ok_iff_of_kind (kind_hop place elsewhere node segment)).2 there] at failed
    cases failed

/-- A walk that fails for a cause stops at a segment. -/
theorem exists_stops {place : String} {start : Value} {segments : List Segment}
    {cause : ResolutionCause} (failed : walk place start segments = .error (.cause cause)) :
    ∃ front, Stops place start segments front cause := by
  induction segments generalizing place start with
  | nil => cases failed
  | cons segment segments ih =>
    rw [walk] at failed
    cases hopped : hop place start segment with
    | error e =>
      rw [hopped] at failed
      cases failed
      exact ⟨[], start, segment, segments, rfl, rfl, hopped⟩
    | ok next =>
      rw [hopped] at failed
      obtain ⟨front, stops⟩ := ih failed
      exact ⟨segment :: front, stops.next hopped⟩

/-- A `result` in front that the value has is no envelope. -/
theorem skipResult_of_counts {start : Value} {segments : List Segment}
    (counts : ∀ rest, segments = .key "result" :: rest → start.field? "result" ≠ none) :
    skipResult start segments = segments := by
  cases segments with
  | nil => rfl
  | cons first rest =>
    cases first with
    | key name =>
      rw [skipResult, if_neg]
      simp only [Bool.and_eq_true, decide_eq_true_eq, Option.isNone_iff_eq_none, not_and]
      rintro rfl
      exact counts rest rfl
    | dotted index => rfl
    | bracket index => rfl

/-- The hops of a lookup are those of its path, less a leading `result` that does not count. What
stands before a hop is skipped or made likewise. -/
theorem exists_before {start : Value} {segments front behind : List Segment} {segment : Segment}
    (split : skipResult start segments = front ++ segment :: behind) :
    ∃ before, segments = before ++ segment :: behind ∧ skipResult start before = front := by
  by_cases skipped : ∃ rest, segments = .key "result" :: rest ∧ start.field? "result" = none
  · obtain ⟨rest, rfl, absent⟩ := skipped
    refine ⟨.key "result" :: front, ?_, by simp [skipResult, absent]⟩
    simpa [skipResult, absent] using split
  · have counts (rest : List Segment) (same : segments = .key "result" :: rest) :
        start.field? "result" ≠ none := fun absent => skipped ⟨rest, same, absent⟩
    rw [skipResult_of_counts counts] at split
    refine ⟨front, split, skipResult_of_counts fun rest same => ?_⟩
    exact counts (rest ++ segment :: behind) (by rw [split, same, List.cons_append])

theorem skipResult_suffix (start : Value) (segments : List Segment) :
    skipResult start segments <:+ segments := by
  by_cases skipped : ∃ rest, segments = .key "result" :: rest ∧ start.field? "result" = none
  · obtain ⟨rest, rfl, absent⟩ := skipped
    simp [skipResult, absent]
  · have whole : skipResult start segments = segments :=
      skipResult_of_counts fun rest same absent => skipped ⟨rest, same, absent⟩
    exact whole.symm ▸ List.suffix_rfl

/-- A hop by a name leads to the entry of an object. -/
theorem field_of_hop {place name : String} {node next : Value}
    (success : hop place node (.key name) = .ok next) : node.field? name = some next := by
  cases node with
  | dict entries =>
    simp only [hop, Segment.text] at success
    split at success
    next value found =>
      cases success
      exact found
    next => cases blame_ne_ok success
  | keyed keys values =>
    simp only [hop, Segment.text] at success
    split at success
    next value found =>
      cases success
      exact found
    next => cases blame_ne_ok success
  | _ =>
    simp only [hop] at success
    cases blame_ne_ok success

/-- A walk that gets through some hops makes all of them. -/
theorem skipResult_of_walk {place : String} {start node : Value} {front : List Segment}
    (reached : walk place start front = .ok node) : skipResult start front = front := by
  refine skipResult_of_counts ?_
  rintro rest rfl absent
  obtain ⟨next, hopped, _⟩ := Success.bind_ok reached
  rw [field_of_hop hopped] at absent
  cases absent

/-! ### Lookups -/

variable {outputs : Outputs} {expression : String}

/-- An expression leads to what its lookup finds, once the blanks around it are gone. -/
theorem leads_trim_iff (node : Value) :
    Leads outputs (Text.trim expression) node ↔ lookup expression outputs = .ok node := by
  constructor
  · rintro ⟨path, start, denotes, stored, reached⟩
    rw [lookup_of_stored denotes stored, reached]
    rfl
  · intro found
    cases denotes : parse (Text.trim expression) with
    | error e =>
      rw [lookup_of_refused outputs denotes] at found
      cases found
    | ok path =>
      cases stored : outputs.lookup path.step with
      | none =>
        rw [lookup_of_absent denotes stored] at found
        cases found
      | some start =>
        rw [lookup_of_stored denotes stored] at found
        exact ⟨path, start, denotes, stored, Success.mapError_ok_iff.1 found⟩

/-- The written form of the hops that a lookup has made is a path, and it leads where they led. -/
theorem leads_spell {path : Path} {start node : Value} {front : List Segment}
    (spellable : Spellable path) (stored : outputs.lookup path.step = some start)
    (among : ∀ segment ∈ front, segment ∈ path.segments)
    (reached : walk path.step start front = .ok node) :
    Leads outputs (spell ⟨path.step, front⟩) node := by
  have shorter : Spellable ⟨path.step, front⟩ :=
    ⟨spellable.step, fun segment member => spellable.segments segment (among segment member)⟩
  refine ⟨⟨path.step, front⟩, start, shorter.parse_spell_eq, stored, ?_⟩
  rw [skipResult_of_walk reached]
  exact reached

/-- A lookup that gets to its step fails where a hop is refused. -/
theorem failsAt_of_lookup {e : ResolutionError}
    (failed : lookup expression outputs = .error (.unresolved e))
    (denoted : ∀ fault, e.cause ≠ .malformed fault) (found : ∀ step, e.cause ≠ .notExecuted step) :
    ∃ place node segment, FailsAt outputs expression place node segment ∧
      Leads outputs place node ∧ hop place node segment = .error (.cause e.cause) := by
  cases denotes : parse (Text.trim expression) with
  | error error =>
    rw [lookup_of_refused outputs denotes] at failed
    cases error with
    | malformed fault =>
      cases failed
      exact absurd rfl (denoted fault)
    | numeral cause => cases failed
  | ok path =>
    cases stored : outputs.lookup path.step with
    | none =>
      rw [lookup_of_absent denotes stored] at failed
      cases failed
      exact absurd rfl (found path.step)
    | some start =>
      rw [lookup_of_stored denotes stored] at failed
      cases walked : walk path.step start (skipResult start path.segments) with
      | ok value => rw [walked] at failed; cases failed
      | error error =>
        rw [walked] at failed
        cases error with
        | unreadable cause => cases failed
        | cause cause =>
          cases failed
          obtain ⟨front, node, segment, behind, split, reached, refused⟩ := exists_stops walked
          obtain ⟨before, whole, rfl⟩ := exists_before split
          refine ⟨_, node, segment, ⟨path, start, before, behind, denotes, stored, whole, split,
            reached, refused_elsewhere refused, rfl⟩, ?_, refused⟩
          refine leads_spell (spellable_of_parse denotes) stored (fun hop member => ?_) reached
          refine (skipResult_suffix start path.segments).subset ?_
          rw [split]
          exact List.mem_append_left _ member

/-- A lookup that fails at a node says so: all hops before a segment are made, and this one is
refused everywhere. The place in the report is a path that leads to the node, and so an expression
for it where no blanks are around it. The summary in the report is that of the node, and so is the
length of a list that is too short. -/
theorem failure_names_node (outputs : Outputs) (expression : String) (e : ResolutionError)
    (failed : lookup expression outputs = .error (.unresolved e))
    (denoted : ∀ fault, e.cause ≠ .malformed fault)
    (executed : ∀ step, e.cause ≠ .notExecuted step) :
    ∃ place node segment schema, FailsAt outputs expression place node segment ∧
      Leads outputs place node ∧
      (∀ other, Text.trim other = place → lookup other outputs = .ok node) ∧
      Schema.infer node = .ok schema ∧ Refuses place schema node segment e.cause := by
  obtain ⟨place, node, segment, fails, leads, refused⟩ := failsAt_of_lookup failed denoted executed
  obtain ⟨schema, inferred, refuses⟩ := refuses_of_hop refused
  refine ⟨place, node, segment, schema, fails, leads, fun other same => ?_, inferred, refuses⟩
  rw [← leads_trim_iff, same]
  exact leads

/-- A `result` that is skipped, a key that ends in a blank, zeros in front of an index and a digit
of another script. -/
theorem failure_names_node_rewritten :
    let outputs : Outputs := [("s", .dict [("a ", .list [.dict [("7", .str "x")]])])]
    ∃ e, lookup " s.result.a [00].٧.b" outputs = .error (.unresolved e) ∧
      e.cause = .primitive (.key "b") "s.a [0].7" (.leaf "string") ∧
      FailsAt outputs " s.result.a [00].٧.b" "s.a [0].7" (.str "x") (.key "b") ∧
      Leads outputs "s.a [0].7" (.str "x") := by
  intro outputs
  have denotes : Denotes " s.result.a [00].٧.b"
    ⟨"s", [.key "result", .key "a ", .bracket 0, .dotted 7, .key "b"]⟩ := rfl
  have place : spell ⟨"s", [.key "a ", .bracket 0, .dotted 7]⟩ = "s.a [0].7" := rfl
  have failed : lookup " s.result.a [00].٧.b" outputs = .error (.unresolved
      ⟨Text.trim " s.result.a [00].٧.b", .primitive (.key "b") "s.a [0].7" (.leaf "string")⟩) := by
    rw [lookup_of_stored denotes rfl, ← place]
    rfl
  have reads : lookup "s.a [0].7" outputs = .ok (.str "x") := rfl
  obtain ⟨_, node, segment, schema, fails, leads, found, _, refuses⟩ :=
    failure_names_node outputs _ _ failed nofun nofun
  cases refuses
  obtain rfl : Value.str "x" = node := Except.ok.inj (reads.symm.trans (found "s.a [0].7" rfl))
  exact ⟨_, failed, rfl, fails, leads⟩

end Workflow.Path
