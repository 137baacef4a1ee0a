import Workflow.Proofs.Path.Followed
import Workflow.Proofs.Path.Trimmed

/-!
The two notations of a position: in brackets and behind a dot. A path with a position in brackets
and the same path with this position behind a dot are refused alike or read alike, and looking them
up takes the same course as long as the position is that of a list. Elsewhere only the dotted one
can lead on.
-/
namespace Workflow.Path

/-! ### Reading both notations -/

/-- A position reads alike in both notations, or is refused in both for its length. -/
theorem readHop_position (index : Nat) :
    (∃ e, readHop (.bracket index) = .error e ∧ readHop (.dotted index) = .error e) ∨
      (readHop (.bracket index) = .ok [.bracket index] ∧
        readHop (.dotted index) = .ok [.dotted index]) := by
  by_cases short : (Nat.toDigits 10 index).length ≤ Text.numeralLimit
  · have bracketed : Legible (.bracket index) := short
    have dotted : Legible (.dotted index) := short
    exact .inr ⟨readHop_of_legible bracketed, readHop_of_legible dotted⟩
  · left
    obtain ⟨present, decimal⟩ := isIndex_toDigits index
    have digits : (Nat.toDigits 10 index).all Text.isDigit = true :=
      List.all_eq_true.2 fun c member => Text.isDigit_of_isDecimal (decimal c member)
    cases read : Text.readNumeral (Nat.toDigits 10 index) with
    | ok n => exact absurd ((Text.readNumeral_ok_iff _ n).1 read).1.short short
    | error cause =>
      refine ⟨.numeral cause, ?_, ?_⟩
      · rw [readHop, readIndices, ofIndices, read]
        rfl
      · rw [readHop, readName, ofName, List.isEmpty_eq_false_iff.2 present,
          if_neg Bool.false_ne_true, if_pos digits, read]
        rfl

theorem length_nameSegments {name : List Char} (present : name ≠ []) :
    (nameSegments name).length = 1 := by
  rw [nameSegments, List.isEmpty_eq_false_iff.2 present, if_neg Bool.false_ne_true]
  split <;> rfl

/-- A hop is read as one segment. -/
theorem length_of_readHop {segment : Segment} {read : List Segment} (named : Named [segment])
    (success : readHop segment = .ok read) : read.length = 1 := by
  cases segment with
  | key name =>
    rw [((ofName_ok_iff ..).1 (Success.mapError_ok_iff.1 success)).2]
    exact length_nameSegments (by simpa using (named name List.mem_cons_self).present)
  | dotted index =>
    rw [((ofName_ok_iff ..).1 (Success.mapError_ok_iff.1 success)).2]
    exact length_nameSegments Nat.toDigits_ne_nil
  | bracket index =>
    have isIndex : ∀ digits ∈ [Nat.toDigits 10 index], IsIndex digits := by
      simpa using isIndex_toDigits index
    rw [((ofIndices_ok_iff isIndex _).1 (Success.mapError_ok_iff.1 success)).2]
    rfl

theorem length_of_readHops {segments read : List Segment} (named : Named segments)
    (success : readHops segments = .ok read) : read.length = segments.length := by
  induction segments generalizing read with
  | nil =>
    cases success
    rfl
  | cons segment segments ih =>
    obtain ⟨first, others⟩ := named_cons_iff.1 named
    obtain ⟨head, tail, here, later, rfl⟩ := joined_ok success
    rw [List.length_append, length_of_readHop first here, ih others later, List.length_cons,
      Nat.add_comm]

/-- The hops of both notations are refused for the same cause, or read alike but for the
position. -/
theorem joined_position (front : List Segment) {kept : List Segment} (tail : List (List Char))
    (names : Named kept) (index : Nat) :
    (∃ e, joined (readHops (front ++ .bracket index :: kept)) (ofParts tail) = .error e ∧
      joined (readHops (front ++ .dotted index :: kept)) (ofParts tail) = .error e) ∨
    ∃ front' kept' tail', kept'.length = kept.length ∧ ofParts tail = .ok tail' ∧
      joined (readHops (front ++ .bracket index :: kept)) (ofParts tail) =
        .ok (front' ++ .bracket index :: kept' ++ tail') ∧
      joined (readHops (front ++ .dotted index :: kept)) (ofParts tail) =
        .ok (front' ++ .dotted index :: kept' ++ tail') := by
  simp only [readHops_append, readHops, joined_assoc]
  cases readHops front with
  | error e => exact .inl ⟨e, rfl, rfl⟩
  | ok front' =>
    obtain ⟨e, bracketed, dotted⟩ | ⟨bracketed, dotted⟩ := readHop_position index
    · rw [bracketed, dotted]
      exact .inl ⟨e, rfl, rfl⟩
    · rw [bracketed, dotted]
      cases read : readHops kept with
      | error e => exact .inl ⟨e, rfl, rfl⟩
      | ok kept' =>
        cases ofParts tail with
        | error e => exact .inl ⟨e, rfl, rfl⟩
        | ok tail' =>
          refine .inr ⟨front', kept', tail', length_of_readHops names read, rfl, ?_, ?_⟩ <;>
            simp [joined, bind, Except.bind, pure, Except.pure]

/-- Without the blanks around it, a written path with a position in it keeps what is before this and
the position itself. -/
theorem trim_position {step : String} {front back kept : List Segment} {tail : List (List Char)}
    {segment : Segment} (index : ∀ name, segment ≠ .key name)
    (left : Text.dropEndWhile Text.isBlank (back.flatMap Segment.chars) =
      kept.flatMap Segment.chars ++ tail.flatMap ('.' :: ·)) :
    Text.trim (spell ⟨step, front ++ segment :: back⟩) =
      String.ofList (step.toList.dropWhile Text.isBlank ++
        ((front ++ segment :: kept).flatMap Segment.chars ++ tail.flatMap ('.' :: ·))) := by
  have ends := Text.dropEndWhile_append_of_last (back.flatMap Segment.chars)
    (unblank_append_index (front.flatMap Segment.chars) index)
  rw [trim_spell_hops step (by simp)]
  simp only [List.flatMap_append, List.flatMap_cons, List.append_assoc, left] at ends ⊢
  rw [ends]

/-- Two texts are both refused for causes of the same kind, or denote paths that differ in one
position alone, which the first has in brackets and the second behind a dot, with so many hops
behind it. -/
def DenotePosition (bracketed dotted : String) (index behind : Nat) : Prop :=
  (∃ e e', parse (Text.trim bracketed) = .error e ∧ parse (Text.trim dotted) = .error e' ∧
    e.kind = e'.kind) ∨
  ∃ step front back, back.length = behind ∧
    Denotes bracketed ⟨step, front ++ .bracket index :: back⟩ ∧
    Denotes dotted ⟨step, front ++ .dotted index :: back⟩

theorem denote_position {step : String} (named : IsName step) {front back : List Segment}
    (names : Named (front ++ back)) (index : Nat) :
    DenotePosition (spell ⟨step, front ++ .bracket index :: back⟩)
      (spell ⟨step, front ++ .dotted index :: back⟩) index back.length := by
  obtain ⟨first, final⟩ := named_append_iff.1 names
  obtain ⟨kept, tail, keptNames, whole, left⟩ := exists_trimmed final
  have dotless : ∀ text ∈ tail, '.' ∉ text := by
    rcases whole with ⟨rfl, _⟩ | rfl <;> simp
  have bracketNames : Named (front ++ .bracket index :: kept) :=
    named_append_iff.2 ⟨first, named_cons_iff.2 ⟨by simp [Named], keptNames⟩⟩
  have dottedNames : Named (front ++ .dotted index :: kept) :=
    named_append_iff.2 ⟨first, named_cons_iff.2 ⟨by simp [Named], keptNames⟩⟩
  unfold DenotePosition Denotes
  rw [trim_position (bracket_ne_key index) left, trim_position (dotted_ne_key index) left]
  by_cases blank : step.toList.dropWhile Text.isBlank = []
  · have present (segment : Segment) : front ++ segment :: kept ≠ [] := by simp
    obtain ⟨fault, bracketed⟩ :=
      parse_of_blank_step (present (.bracket index)) blank (tail.flatMap ('.' :: ·))
    obtain ⟨fault', dotted⟩ :=
      parse_of_blank_step (present (.dotted index)) blank (tail.flatMap ('.' :: ·))
    exact .inl ⟨_, _, bracketed, dotted, rfl⟩
  · rw [parse_of_step named bracketNames dotless blank,
      parse_of_step named dottedNames dotless blank]
    obtain ⟨e, bracketed, dotted⟩ | ⟨front', kept', tail', length, read, bracketed, dotted⟩ :=
      joined_position front tail keptNames index
    · rw [bracketed, dotted]
      exact .inl ⟨e, e, rfl, rfl, rfl⟩
    · rw [bracketed, dotted]
      -- A dot at the end is refused, so all hops behind the position are there.
      rcases whole with ⟨rfl, same⟩ | rfl
      · cases read
        rw [List.append_nil, List.append_nil]
        exact .inr ⟨_, front', kept', length.trans same, rfl, rfl⟩
      · cases read

/-! ### Walking both notations -/

/-- In front of a list, or where the walk does not get that far, both notations lead on alike. -/
theorem kind_walk_position {place : String} {start : Value} {front : List Segment}
    (listed : ∀ node, walk place start front = .ok node → ∃ items, node = .list items)
    (index : Nat) (back : List Segment) :
    (walk place start (front ++ .bracket index :: back)).mapError WalkError.kind =
      (walk place start (front ++ .dotted index :: back)).mapError WalkError.kind := by
  rw [walk_append, walk_append]
  cases reached : walk place start front with
  | error e => rfl
  | ok node =>
    obtain ⟨items, rfl⟩ := listed node reached
    change (itemAt items index >>= fun next => walk _ next back).mapError WalkError.kind =
      (itemAt items index >>= fun next => walk _ next back).mapError WalkError.kind
    cases itemAt items index with
    | error e => rfl
    | ok next => exact kind_walk _ _ next back

/-! ### Looking both notations up -/

/-- Two lookups take the same course: they arrive at the same nodes, hop by hop, and come to the
same value, or fail at the same hop for causes of the same kind. -/
structure SameCourse (outputs : Outputs) (expression other : String) : Prop where
  arrives : ∀ node left, Arrives outputs expression node left ↔ Arrives outputs other node left
  outcome : outcome (lookup expression outputs) = outcome (lookup other outputs)

variable {outputs : Outputs} {bracketed dotted : String} {index behind : Nat}

theorem sameCourse_of_refused {e e' : Error} (refused : parse (Text.trim bracketed) = .error e)
    (refused' : parse (Text.trim dotted) = .error e') (same : e.kind = e'.kind) :
    SameCourse outputs bracketed dotted where
  arrives node left := by
    constructor
    · rintro ⟨path, _, _, _, denotes, _⟩
      exact absurd (refused.symm.trans denotes) (by simp)
    · rintro ⟨path, _, _, _, denotes, _⟩
      exact absurd (refused'.symm.trans denotes) (by simp)
  outcome := by
    rw [lookup_of_refused outputs refused, lookup_of_refused outputs refused']
    simp [Workflow.outcome, same]

theorem sameCourse_of_absent {path path' : Path} (denotes : Denotes bracketed path)
    (denotes' : Denotes dotted path') (same : path.step = path'.step)
    (absent : outputs.lookup path.step = none) : SameCourse outputs bracketed dotted where
  arrives node left := by
    constructor
    · intro arrives
      obtain ⟨start, stored⟩ := arrives.exists_stored denotes
      exact absurd (absent.symm.trans stored) (by simp)
    · intro arrives
      obtain ⟨start, stored⟩ := arrives.exists_stored denotes'
      exact absurd ((same ▸ absent).symm.trans stored) (by simp)
  outcome := by
    rw [lookup_of_absent denotes absent, lookup_of_absent denotes' (same ▸ absent)]
    rfl

variable {step : String} {front back : List Segment} {start : Value}

theorem sameCourse_of_listed (denotes : Denotes bracketed ⟨step, front ++ .bracket index :: back⟩)
    (denotes' : Denotes dotted ⟨step, front ++ .dotted index :: back⟩)
    (stored : outputs.lookup step = some start)
    (listed : ∀ node, walk step start (skipResult start front) = .ok node →
      ∃ items, node = .list items) : SameCourse outputs bracketed dotted where
  arrives node left := by
    rw [arrives_iff denotes stored (skipResult_append start front back _ (bracket_ne_key index)),
      arrives_iff denotes' stored (skipResult_append start front back _ (dotted_ne_key index)),
      List.length_append, List.length_append, List.length_cons, List.length_cons]
    refine and_congr_right fun _ => ?_
    -- The hops behind the lookup end before the position, or it is among them.
    rw [List.take_append, List.take_append]
    cases among : (skipResult start front).length + (back.length + 1) - left -
      (skipResult start front).length with
    | zero => rfl
    | succ passed =>
      rw [List.take_of_length_le (by omega)]
      exact ok_iff_of_kind (kind_walk_position listed index (back.take passed))
  outcome := by
    rw [outcome_lookup_of_stored denotes stored, outcome_lookup_of_stored denotes' stored,
      skipResult_append start front back _ (bracket_ne_key index),
      skipResult_append start front back _ (dotted_ne_key index)]
    exact kind_walk_position listed index back

/-- The node at the position is what the hops before it lead to. -/
theorem arrives_at_position_iff {segment : Segment} {expression : String}
    (denotes : Denotes expression ⟨step, front ++ segment :: back⟩)
    (stored : outputs.lookup step = some start) (position : ∀ name, segment ≠ .key name)
    (node : Value) :
    Arrives outputs expression node (back.length + 1) ↔
      walk step start (skipResult start front) = .ok node := by
  rw [arrives_iff denotes stored (skipResult_append start front back segment position)]
  simp

theorem lookup_of_unlisted (denotes : Denotes bracketed ⟨step, front ++ .bracket index :: back⟩)
    (stored : outputs.lookup step = some start) {node : Value}
    (reached : walk step start (skipResult start front) = .ok node)
    (unlisted : ∀ items, node ≠ .list items) : ∃ e, lookup bracketed outputs = .error e := by
  have refused (place : String) : ∃ e, hop place node (.bracket index) = .error e := by
    cases stopped : hop place node (.bracket index) with
    | error e => exact ⟨e, rfl⟩
    | ok next =>
      cases node with
      | list items => exact absurd rfl (unlisted items)
      | _ =>
        simp only [hop] at stopped
        exact absurd stopped blame_ne_ok
  obtain ⟨e, stopped⟩ := refused (spell ⟨step, skipResult start front⟩)
  refine ⟨ResolveError.ofWalk (Text.trim bracketed) e, ?_⟩
  rw [lookup_of_stored denotes stored,
    skipResult_append start front back _ (bracket_ne_key index), walk_append, reached]
  exact congrArg (fun found => Except.mapError _ (found >>= fun next => walk _ next back)) stopped

/-- Lookups of both notations take the same course, unless what is at the position is no list. -/
theorem sameCourse_or_unlisted (outputs : Outputs)
    (denote : DenotePosition bracketed dotted index behind) :
    SameCourse outputs bracketed dotted ∨ ∃ node,
      Arrives outputs bracketed node (behind + 1) ∧ Arrives outputs dotted node (behind + 1) ∧
        ∀ items, node ≠ .list items := by
  obtain ⟨e, e', refused, refused', same⟩ | ⟨step, front, back, rfl, denotes, denotes'⟩ := denote
  · exact .inl (sameCourse_of_refused refused refused' same)
  · cases stored : outputs.lookup step with
    | none => exact .inl (sameCourse_of_absent denotes denotes' rfl stored)
    | some start =>
      by_cases listed : ∀ node, walk step start (skipResult start front) = .ok node →
        ∃ items, node = .list items
      · exact .inl (sameCourse_of_listed denotes denotes' stored listed)
      · simp only [not_forall, not_exists] at listed
        obtain ⟨node, reached, unlisted⟩ := listed
        have arrives :=
          (arrives_at_position_iff denotes stored (bracket_ne_key index) node).2 reached
        have arrives' :=
          (arrives_at_position_iff denotes' stored (dotted_ne_key index) node).2 reached
        exact .inr ⟨node, arrives, arrives', unlisted⟩

theorem fails_of_unlisted (denote : DenotePosition bracketed dotted index behind) {node : Value}
    (arrives : Arrives outputs bracketed node (behind + 1))
    (unlisted : ∀ items, node ≠ .list items) : ∃ e, lookup bracketed outputs = .error e := by
  obtain ⟨e, e', refused, _⟩ | ⟨step, front, back, rfl, denotes, _⟩ := denote
  · exact ⟨_, lookup_of_refused outputs refused⟩
  · obtain ⟨start, stored⟩ := arrives.exists_stored denotes
    have reached := (arrives_at_position_iff denotes stored (bracket_ne_key _) node).1 arrives
    exact lookup_of_unlisted denotes stored reached unlisted

/-- A position in brackets and the same position behind a dot, in a path of names and any positions.
Where the brackets find something the dot finds it too; if the position is that of a list, both
lookups take the same course. They can differ only where the position is applied to something else,
and there the brackets fail. -/
theorem dotted_as_bracketed (outputs : Outputs) {step : String} (named : IsName step)
    {front back : List Segment} (names : Named (front ++ back)) (index : Nat) :
    let bracketed := spell ⟨step, front ++ .bracket index :: back⟩
    let dotted := spell ⟨step, front ++ .dotted index :: back⟩
    (∀ value, lookup bracketed outputs = .ok value → lookup dotted outputs = .ok value) ∧
      (∀ items, Arrives outputs bracketed (.list items) (back.length + 1) →
        SameCourse outputs bracketed dotted) ∧
      (¬SameCourse outputs bracketed dotted → ∃ node,
        Arrives outputs bracketed node (back.length + 1) ∧
          Arrives outputs dotted node (back.length + 1) ∧ ∀ items, node ≠ .list items) ∧
      ∀ node, Arrives outputs bracketed node (back.length + 1) → (∀ items, node ≠ .list items) →
        ∃ e, lookup bracketed outputs = .error e := by
  intro bracketed dotted
  have denote : DenotePosition bracketed dotted index back.length :=
    denote_position named names index
  have course := sameCourse_or_unlisted outputs denote
  refine ⟨fun value found => ?_, fun items arrives => ?_, course.resolve_left,
    fun node => fails_of_unlisted denote⟩
  · obtain same | ⟨node, arrives, _, unlisted⟩ := course
    · rw [← Success.mapError_ok_iff (f := ResolveError.kind)] at found ⊢
      exact same.outcome.symm.trans found
    · obtain ⟨e, failed⟩ := fails_of_unlisted denote arrives unlisted
      rw [failed] at found
      cases found
  · refine course.resolve_right ?_
    rintro ⟨node, arrives', _, unlisted⟩
    exact unlisted items (arrives'.unique arrives)

/-- A position that a list does not have, and one that is a key of an object. -/
theorem dotted_as_bracketed_beyond :
    let outputs : Outputs := [("s", .dict [("a", .list [.null]), ("0", .bool true)])]
    Arrives outputs "s.a[7]" (.list [.null]) 1 ∧ SameCourse outputs "s.a[7]" "s.a.7" ∧
      (∃ e, lookup "s[0]" outputs = .error e) ∧ lookup "s.0" outputs = .ok (.bool true) := by
  intro outputs
  have step : IsName "s" := ⟨by decide, by simp [isBracket]⟩
  have key : IsName "a" := ⟨by decide, by simp [isBracket]⟩
  have names : Named ([.key "a"] ++ []) := by
    intro name member
    rw [Segment.key.inj (List.mem_singleton.1 member)]
    exact key
  have arrives : Arrives outputs "s.a[7]" (.list [.null]) 1 :=
    ⟨⟨"s", [.key "a", .bracket 7]⟩, _, [.key "a"], [.bracket 7], rfl, rfl, rfl, rfl, rfl⟩
  have arrives' : Arrives outputs "s[0]" (.dict [("a", .list [.null]), ("0", .bool true)]) 1 :=
    ⟨⟨"s", [.bracket 0]⟩, _, [], [.bracket 0], rfl, rfl, rfl, rfl, rfl⟩
  obtain ⟨_, course, _, _⟩ := dotted_as_bracketed outputs step names 7
  have bare : Named ([] ++ []) := by simp [Named]
  obtain ⟨_, _, _, fails⟩ := dotted_as_bracketed outputs step bare 0
  exact ⟨arrives, course _ arrives, fails _ arrives' (by simp), rfl⟩

end Workflow.Path
