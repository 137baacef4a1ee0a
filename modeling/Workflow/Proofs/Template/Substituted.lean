import Mathlib.Data.List.Forall2
import Workflow.Proofs.Template.Literal
import Workflow.Proofs.Template.Pieces

/-!
Resolution is substitution in one pass. Each string splits at its placeholders, which give way to
the values that they name, or to the texts of these inside a longer string; what they give is not
looked at again. The first site in reading order that gives nothing decides how resolution fails:
its lookup fails, or its value refuses to be copied or has no text.
-/
namespace Workflow.Template

/-- The text that a piece gives: literal text itself, a placeholder that of the value which it
names, if it has one. -/
inductive Gives (outputs : Outputs) : Piece → String → Prop
  | literal (text : List Char) : Gives outputs (.literal text) (String.ofList text)
  | placeholder {expression : List Char} {found : Value} {text : String} :
    lookup (String.ofList expression) outputs = .ok found → stringify found = .ok text →
    Gives outputs (.placeholder expression) text

/-- A value with all placeholders in it replaced. A string that is one placeholder becomes the value
that it names, which must allow copies, and any other string the texts that its pieces give. -/
inductive Substitutes (outputs : Outputs) : Value → Value → Prop
  | null : Substitutes outputs .null .null
  | bool (b : Bool) : Substitutes outputs (.bool b) (.bool b)
  | int (n : Int) : Substitutes outputs (.int n) (.int n)
  | float (x : Double) : Substitutes outputs (.float x) (.float x)
  | foreign (object : Foreign) : Substitutes outputs (.foreign object) (.foreign object)
  | whole {text : String} {expression : List Char} {found : Value} :
    Piece.Plain expression → text.toList = Piece.braced expression →
    lookup (String.ofList expression) outputs = .ok found → found.copyError? = none →
    Substitutes outputs (.str text) found
  | spliced {text : String} {pieces : List Piece} {texts : List String} :
    Piece.Decomposes pieces text.toList → (∀ expression, pieces ≠ [.placeholder expression]) →
    List.Forall₂ (Gives outputs) pieces texts →
    Substitutes outputs (.str text) (.str (String.join texts))
  | list {items resolved : List Value} :
    List.Forall₂ (Substitutes outputs) items resolved →
    Substitutes outputs (.list items) (.list resolved)
  | tuple {items resolved : List Value} :
    List.Forall₂ (Substitutes outputs) items resolved →
    Substitutes outputs (.tuple items) (.list resolved)
  | dict {entries resolved : List (String × Value)} :
    Entries.keys resolved = Entries.keys entries →
    List.Forall₂ (Substitutes outputs) (entries.map Prod.snd) (resolved.map Prod.snd) →
    Substitutes outputs (.dict entries) (.dict resolved)
  | keyed {keys : List Key} {values resolved : List Value} :
    List.Forall₂ (Substitutes outputs) values resolved →
    Substitutes outputs (.keyed keys values) (.keyed keys resolved)

/-- What resolution depends on: a placeholder as all of a string or inside a longer one, and an
object whose entries cannot be listed. -/
inductive Site where
  | whole (expression : List Char)
  | spliced (expression : List Char)
  | unlistable (message : String)

/-- How resolution fails at a site. The value of a whole string is copied, any other is asked for
its text. -/
def Site.error? (outputs : Outputs) : Site → Option ResolveError
  | whole expression =>
    match lookup (String.ofList expression) outputs with
    | .error e => some e
    | .ok found => found.copyError?.map ResolveError.ofCopy
  | spliced expression =>
    match lookup (String.ofList expression) outputs with
    | .error e => some e
    | .ok found => (Success.failure? (stringify found)).map ResolveError.untold
  | unlistable message => some (.unreadable ⟨message⟩)

/-- The lookup at a site fails, or its value cannot be copied where a copy is due, or there is an
object whose entries cannot be listed. -/
def Site.Refused (outputs : Outputs) : Site → Prop
  | whole expression =>
    ∀ found, lookup (String.ofList expression) outputs = .ok found → found.copyError? ≠ none
  | spliced expression => ∀ found, lookup (String.ofList expression) outputs ≠ .ok found
  | unlistable _ => True

/-- The value at a site has no text, where its text is due. -/
def Site.Untold (outputs : Outputs) (site : Site) : Prop :=
  ∃ expression found cause, site = spliced expression ∧
    lookup (String.ofList expression) outputs = .ok found ∧ stringify found = .error cause

/-- The expression that is looked up at a site. -/
def Site.expression? : Site → Option String
  | whole expression => some (String.ofList expression)
  | spliced expression => some (String.ofList expression)
  | unlistable _ => none

def sitesOfPieces : List Piece → List Site
  | [.placeholder expression] => [.whole expression]
  | pieces => (pieces.filterMap Piece.expression?).map .spliced

mutual

/-- The sites in a value, in reading order. -/
def sites : Value → List Site
  | .str text => sitesOfPieces (Piece.ofChars text.toList)
  | .list items => sitesOfItems items
  | .tuple items => sitesOfItems items
  | .dict entries => sitesOfEntries entries
  | .keyed _ values => sitesOfItems values
  | .unreadable message => [.unlistable message]
  | _ => []

def sitesOfItems : List Value → List Site
  | [] => []
  | item :: rest => sites item ++ sitesOfItems rest

def sitesOfEntries : List (String × Value) → List Site
  | [] => []
  | (_, value) :: rest => sites value ++ sitesOfEntries rest

end

/-- Resolution comes to the lookup of an expression: every site before it gives something. -/
def ComesTo (outputs : Outputs) (v : Value) (expression : String) : Prop :=
  ∃ before site after, sites v = before ++ site :: after ∧
    (∀ earlier ∈ before, earlier.error? outputs = none) ∧ site.expression? = some expression

/-! ### Strings -/

variable (outputs : Outputs)

theorem resolveText_of_whole {text : String} {expression : List Char}
    (pieces : Piece.ofChars text.toList = [.placeholder expression]) :
    resolveText text outputs = (do
      let value ← lookup (String.ofList expression) outputs
      value.copy.mapError ResolveError.ofCopy) := by
  simp only [resolveText, pieces]

theorem resolveText_of_spliced {text : String}
    (parts : ∀ expression, Piece.ofChars text.toList ≠ [.placeholder expression]) :
    resolveText text outputs = .str <$> fill outputs (Piece.ofChars text.toList) := by
  unfold resolveText
  split
  next expression whole => exact absurd whole (parts expression)
  next => rfl

theorem copy_ok_iff (v w : Value) : v.copy = .ok w ↔ v.copyError? = none ∧ w = v := by
  unfold Value.copy
  cases v.copyError? with
  | some error => simp only [reduceCtorEq, false_and]
  | none => simp only [Except.ok.injEq, true_and, eq_comm]

theorem pieceText_ok_iff (piece : Piece) (text : String) :
    pieceText outputs piece = .ok text ↔ Gives outputs piece text := by
  cases piece with
  | literal literal =>
    refine ⟨fun success => ?_, fun gives => ?_⟩
    · rw [← Except.ok.inj success]
      exact .literal literal
    · cases gives
      rfl
  | placeholder expression =>
    refine ⟨fun success => ?_, fun gives => ?_⟩
    · obtain ⟨found, looked, told⟩ := Success.bind_ok success
      exact .placeholder looked (Success.mapError_ok_iff.1 told)
    · cases gives with
      | placeholder looked told =>
        rw [pieceText, looked]
        exact Success.mapError_ok_iff.2 told

theorem pieceTexts_ok_iff (pieces : List Piece) (texts : List String) :
    pieceTexts outputs pieces = .ok texts ↔ List.Forall₂ (Gives outputs) pieces texts := by
  induction pieces generalizing texts with
  | nil => simp [pieceTexts, eq_comm]
  | cons piece pieces ih =>
    rw [pieceTexts]
    constructor
    · intro success
      obtain ⟨text, first, success⟩ := Success.bind_ok success
      obtain ⟨others, rest, same⟩ := Success.bind_ok success
      cases same
      exact .cons ((pieceText_ok_iff ..).1 first) ((ih others).1 rest)
    · rintro (_ | ⟨first, rest⟩)
      rw [(pieceText_ok_iff ..).2 first, (ih _).2 rest]
      rfl

theorem resolveText_ok_iff (text : String) (w : Value) :
    resolveText text outputs = .ok w ↔ Substitutes outputs (.str text) w := by
  constructor
  · intro success
    by_cases whole : ∃ expression, Piece.ofChars text.toList = [.placeholder expression]
    · obtain ⟨expression, pieces⟩ := whole
      rw [resolveText_of_whole outputs pieces] at success
      obtain ⟨found, looked, success⟩ := Success.bind_ok success
      obtain ⟨copied, rfl⟩ := (copy_ok_iff found w).1 (Success.mapError_ok_iff.1 success)
      obtain ⟨plain, same⟩ :=
        (Piece.decomposes_placeholder_iff ..).1 ((Piece.decomposes_iff ..).2 pieces)
      exact .whole plain same looked copied
    · rw [not_exists] at whole
      rw [resolveText_of_spliced outputs whole, fill] at success
      obtain ⟨filled, joined, rfl⟩ := Success.map_ok success
      obtain ⟨texts, given, rfl⟩ := Success.map_ok joined
      exact .spliced (Piece.decomposes_ofChars _) whole ((pieceTexts_ok_iff ..).1 given)
  · intro substitutes
    cases substitutes with
    | whole plain same looked copied =>
      have pieces := ((Piece.decomposes_placeholder_iff ..).2 ⟨plain, same⟩).ofChars_eq
      rw [resolveText_of_whole outputs pieces, looked]
      exact Success.mapError_ok_iff.2 ((copy_ok_iff ..).2 ⟨copied, rfl⟩)
    | spliced split parts gives =>
      have pieces := split.ofChars_eq
      subst pieces
      rw [resolveText_of_spliced outputs parts, fill, (pieceTexts_ok_iff ..).2 gives]
      rfl

/-! ### Values -/

mutual

theorem resolve_ok_iff : ∀ v w : Value, resolve outputs v = .ok w ↔ Substitutes outputs v w
  | .null, w => ⟨fun success => Except.ok.inj success ▸ .null, by rintro ⟨⟩; rfl⟩
  | .bool b, w => ⟨fun success => Except.ok.inj success ▸ .bool b, by rintro ⟨⟩; rfl⟩
  | .int n, w => ⟨fun success => Except.ok.inj success ▸ .int n, by rintro ⟨⟩; rfl⟩
  | .float x, w => ⟨fun success => Except.ok.inj success ▸ .float x, by rintro ⟨⟩; rfl⟩
  | .foreign object, w =>
    ⟨fun success => Except.ok.inj success ▸ .foreign object, by rintro ⟨⟩; rfl⟩
  | .unreadable _, w => ⟨nofun, nofun⟩
  | .str text, w => by rw [resolve, resolveText_ok_iff]
  | .list items, w => by
    rw [resolve]
    constructor
    · intro success
      obtain ⟨resolved, parts, rfl⟩ := Success.map_ok success
      exact .list ((resolveItems_ok_iff items resolved).1 parts)
    · rintro ⟨⟩
      next resolved parts =>
        rw [(resolveItems_ok_iff items resolved).2 parts]
        rfl
  | .tuple items, w => by
    rw [resolve]
    constructor
    · intro success
      obtain ⟨resolved, parts, rfl⟩ := Success.map_ok success
      exact .tuple ((resolveItems_ok_iff items resolved).1 parts)
    · rintro ⟨⟩
      next resolved parts =>
        rw [(resolveItems_ok_iff items resolved).2 parts]
        rfl
  | .dict entries, w => by
    rw [resolve]
    constructor
    · intro success
      obtain ⟨resolved, parts, rfl⟩ := Success.map_ok success
      obtain ⟨keys, values⟩ := (resolveEntries_ok_iff entries resolved).1 parts
      exact .dict keys values
    · rintro ⟨⟩
      next resolved keys values =>
        rw [(resolveEntries_ok_iff entries resolved).2 ⟨keys, values⟩]
        rfl
  | .keyed keys values, w => by
    rw [resolve]
    constructor
    · intro success
      obtain ⟨resolved, parts, rfl⟩ := Success.map_ok success
      exact .keyed ((resolveItems_ok_iff values resolved).1 parts)
    · rintro ⟨⟩
      next resolved parts =>
        rw [(resolveItems_ok_iff values resolved).2 parts]
        rfl

theorem resolveItems_ok_iff : ∀ items resolved : List Value,
    resolveItems outputs items = .ok resolved ↔ List.Forall₂ (Substitutes outputs) items resolved
  | [], resolved => by simp [resolveItems, eq_comm]
  | item :: rest, resolved => by
    rw [resolveItems]
    constructor
    · intro success
      obtain ⟨w, first, success⟩ := Success.bind_ok success
      obtain ⟨others, later, same⟩ := Success.bind_ok success
      cases same
      exact .cons ((resolve_ok_iff item w).1 first) ((resolveItems_ok_iff rest others).1 later)
    · rintro (_ | ⟨first, later⟩)
      rw [(resolve_ok_iff item _).2 first, (resolveItems_ok_iff rest _).2 later]
      rfl

theorem resolveEntries_ok_iff : ∀ entries resolved : List (String × Value),
    resolveEntries outputs entries = .ok resolved ↔ Entries.keys resolved = Entries.keys entries ∧
      List.Forall₂ (Substitutes outputs) (entries.map Prod.snd) (resolved.map Prod.snd)
  | [], resolved => by cases resolved <;> simp [resolveEntries, Entries.keys]
  | (key, value) :: rest, resolved => by
    rw [resolveEntries]
    constructor
    · intro success
      obtain ⟨w, first, success⟩ := Success.bind_ok success
      obtain ⟨others, later, same⟩ := Success.bind_ok success
      cases same
      obtain ⟨keys, values⟩ := (resolveEntries_ok_iff rest others).1 later
      exact ⟨congrArg (key :: ·) keys, .cons ((resolve_ok_iff value w).1 first) values⟩
    · rintro ⟨keys, values⟩
      cases resolved with
      | nil => cases values
      | cons entry others =>
        obtain ⟨other, w⟩ := entry
        simp only [Entries.keys, List.map_cons, List.cons.injEq] at keys
        obtain ⟨rfl, keys⟩ := keys
        cases values with
        | cons first later =>
          rw [(resolve_ok_iff value w).2 first, (resolveEntries_ok_iff rest others).2 ⟨keys, later⟩]
          rfl

end

/-! ### Failures -/

theorem failure?_pieceText (expression : List Char) :
    Success.failure? (pieceText outputs (.placeholder expression)) =
      (Site.spliced expression).error? outputs := by
  rw [pieceText, Site.error?]
  cases lookup (String.ofList expression) outputs with
  | error e => rfl
  | ok found => exact Success.failure?_mapError ..

theorem failure?_pieceTexts (pieces : List Piece) :
    Success.failure? (pieceTexts outputs pieces) =
      ((pieces.filterMap Piece.expression?).map .spliced).findSome? (Site.error? outputs) := by
  induction pieces with
  | nil => rfl
  | cons piece pieces ih =>
    rw [pieceTexts, Success.failure?_both, ih]
    cases piece with
    | literal text => rfl
    | placeholder expression =>
      have sites : ((.placeholder expression :: pieces).filterMap Piece.expression?).map
          Site.spliced = .spliced expression ::
            (pieces.filterMap Piece.expression?).map .spliced := rfl
      rw [sites, List.findSome?_cons, failure?_pieceText]
      cases (Site.spliced expression).error? outputs <;> rfl

theorem failure?_copy (v : Value) :
    Success.failure? (v.copy.mapError ResolveError.ofCopy) =
      v.copyError?.map ResolveError.ofCopy := by
  unfold Value.copy
  cases v.copyError? <;> rfl

theorem failure?_resolveText (text : String) :
    Success.failure? (resolveText text outputs) =
      (sitesOfPieces (Piece.ofChars text.toList)).findSome? (Site.error? outputs) := by
  by_cases whole : ∃ expression, Piece.ofChars text.toList = [.placeholder expression]
  · obtain ⟨expression, pieces⟩ := whole
    rw [resolveText_of_whole outputs pieces, pieces, sitesOfPieces, List.findSome?_singleton,
      Site.error?]
    cases lookup (String.ofList expression) outputs with
    | error e => rfl
    | ok found => exact failure?_copy found
  · rw [not_exists] at whole
    rw [resolveText_of_spliced outputs whole, Success.failure?_map, fill, Success.failure?_map,
      failure?_pieceTexts]
    unfold sitesOfPieces
    split
    next expression single => exact absurd single (whole expression)
    next => rfl

mutual

/-- Resolution fails as the first site at which it does. -/
theorem failure?_resolve : ∀ v : Value,
    Success.failure? (resolve outputs v) = (sites v).findSome? (Site.error? outputs)
  | .null | .bool _ | .int _ | .float _ | .foreign .. | .unreadable _ => rfl
  | .str text => by rw [resolve, failure?_resolveText, sites]
  | .list items => by rw [resolve, Success.failure?_map, failure?_resolveItems items, sites]
  | .tuple items => by rw [resolve, Success.failure?_map, failure?_resolveItems items, sites]
  | .dict entries => by rw [resolve, Success.failure?_map, failure?_resolveEntries entries, sites]
  | .keyed keys values => by rw [resolve, Success.failure?_map, failure?_resolveItems values, sites]

theorem failure?_resolveItems : ∀ items : List Value,
    Success.failure? (resolveItems outputs items) =
      (sitesOfItems items).findSome? (Site.error? outputs)
  | [] => rfl
  | item :: rest => by
    rw [resolveItems, Success.failure?_both, failure?_resolve item, failure?_resolveItems rest,
      sitesOfItems, List.findSome?_append]

theorem failure?_resolveEntries : ∀ entries : List (String × Value),
    Success.failure? (resolveEntries outputs entries) =
      (sitesOfEntries entries).findSome? (Site.error? outputs)
  | [] => rfl
  | (key, value) :: rest => by
    rw [resolveEntries, Success.failure?_both, failure?_resolve value,
      failure?_resolveEntries rest, sitesOfEntries, List.findSome?_append]

end

theorem error?_eq_some_iff (site : Site) :
    (∃ e, site.error? outputs = some e) ↔ site.Refused outputs ∨ site.Untold outputs := by
  cases site with
  | unlistable message => exact iff_of_true ⟨_, rfl⟩ (.inl trivial)
  | whole expression =>
    cases looked : lookup (String.ofList expression) outputs with
    | error e => simp [Site.error?, Site.Refused, looked]
    | ok found =>
      cases refused : found.copyError? <;>
        simp [Site.error?, Site.Refused, Site.Untold, looked, refused]
  | spliced expression =>
    cases looked : lookup (String.ofList expression) outputs with
    | error e => simp [Site.error?, Site.Refused, looked]
    | ok found =>
      cases told : stringify found <;>
        simp [Site.error?, Site.Refused, Site.Untold, looked, told, Success.failure?]

/-- Resolution fails where a site is refused, or a value has no text. -/
theorem fails_iff (v : Value) :
    (∃ e, resolve outputs v = .error e) ↔
      (∃ site ∈ sites v, site.Refused outputs) ∨ ∃ site ∈ sites v, site.Untold outputs := by
  simp only [← Success.failure?_eq_some_iff, failure?_resolve]
  rw [← Option.isSome_iff_exists, List.findSome?_isSome_iff]
  simp only [Option.isSome_iff_exists, error?_eq_some_iff, and_or_left, exists_or]

/-- An expression that resolution comes to and that names nothing decides how it fails. -/
theorem resolve_of_comesTo {v : Value} {expression : String} {e : ResolveError}
    (comes : ComesTo outputs v expression) (failed : lookup expression outputs = .error e) :
    resolve outputs v = .error e := by
  obtain ⟨before, site, after, split, given, named⟩ := comes
  have first : site.error? outputs = some e := by
    cases site with
    | unlistable message => cases named
    | whole text | spliced text =>
      cases named
      simp only [Site.error?, failed]
  rw [← Success.failure?_eq_some_iff, failure?_resolve]
  exact List.findSome?_eq_some_iff.2 ⟨before, site, after, split, first, given⟩

/-- An error about an expression is that of its lookup. -/
theorem lookup_of_error? {site : Site} {e : ResolutionError}
    (failed : site.error? outputs = some (.unresolved e)) :
    ∃ expression, site.expression? = some expression ∧
      lookup expression outputs = .error (.unresolved e) := by
  cases site with
  | unlistable message => cases failed
  | whole text =>
    refine ⟨_, rfl, ?_⟩
    cases looked : lookup (String.ofList text) outputs with
    | error cause => simpa [Site.error?, looked] using failed
    | ok found =>
      rw [Site.error?, looked] at failed
      obtain ⟨cause, _, same⟩ := Option.map_eq_some_iff.1 failed
      cases cause <;> cases same
  | spliced text =>
    refine ⟨_, rfl, ?_⟩
    cases looked : lookup (String.ofList text) outputs with
    | error cause => simpa [Site.error?, looked] using failed
    | ok found =>
      rw [Site.error?, looked] at failed
      obtain ⟨cause, _, same⟩ := Option.map_eq_some_iff.1 failed
      cases same

theorem exists_comesTo {args : List (String × Value)} {e : ResolutionError}
    (failed : resolveEntries outputs args = .error (.unresolved e)) :
    ∃ expression, ComesTo outputs (.dict args) expression ∧
      lookup expression outputs = .error (.unresolved e) := by
  have first := failure?_resolveEntries outputs args
  rw [failed] at first
  obtain ⟨before, site, after, split, failed, given⟩ := List.findSome?_eq_some_iff.1 first.symm
  obtain ⟨expression, named, looked⟩ := lookup_of_error? outputs failed
  exact ⟨expression, ⟨before, site, after, split, given, named⟩, looked⟩

/-! ### Blanks -/

theorem isBrace_of_isBlank {c : Char} (blank : Text.isBlank c = true) :
    Piece.isBrace c = false := by
  have opening : c ≠ '{' := by
    rintro rfl
    cases blank
  have closing : c ≠ '}' := by
    rintro rfl
    cases blank
  simp [Piece.isBrace, opening, closing]

theorem trim_around {front back : List Char} (expression : List Char)
    (before : ∀ c ∈ front, Text.isBlank c = true) (behind : ∀ c ∈ back, Text.isBlank c = true) :
    Text.trim (String.ofList (front ++ (expression ++ back))) =
      Text.trim (String.ofList expression) := by
  rw [Text.trim, Text.trim, String.toList_ofList, String.toList_ofList,
    Text.strip_around expression before behind]

/-- An expression is looked up without the blanks around it. -/
theorem lookup_of_trim {expression other : String} (same : Text.trim expression = Text.trim other) :
    lookup expression outputs = lookup other outputs := by
  rw [lookup, lookup, same]

theorem pieceTexts_around {piece other : Piece} (before after : List Piece)
    (same : pieceText outputs piece = pieceText outputs other) :
    pieceTexts outputs (before ++ piece :: after) =
      pieceTexts outputs (before ++ other :: after) := by
  induction before with
  | nil => rw [List.nil_append, List.nil_append, pieceTexts, pieceTexts, same]
  | cons first before ih => rw [List.cons_append, List.cons_append, pieceTexts, pieceTexts, ih]

/-- Expressions that name the same can take each other's place in a text. -/
theorem resolveText_around {expression other : List Char} (before after : List Char)
    (plain : Piece.Plain expression) (plain' : Piece.Plain other)
    (same : lookup (String.ofList expression) outputs = lookup (String.ofList other) outputs) :
    resolveText (String.ofList (before ++ (Piece.braced expression ++ after))) outputs =
      resolveText (String.ofList (before ++ (Piece.braced other ++ after))) outputs := by
  have front := Piece.decomposes_ofChars before
  have back := Piece.decomposes_ofChars after
  have split := (front.around plain back).ofChars_eq
  have split' := (front.around plain' back).ofChars_eq
  rw [← String.toList_ofList (l := before ++ _)] at split split'
  by_cases alone : Piece.ofChars before = [] ∧ Piece.ofChars after = []
  · rw [alone.1, alone.2, List.nil_append] at split split'
    rw [resolveText_of_whole outputs split, resolveText_of_whole outputs split', same]
  · have parts (expression single : List Char) :
        Piece.ofChars before ++ .placeholder expression :: Piece.ofChars after ≠
          [.placeholder single] := by
      intro whole
      have size := congrArg List.length whole
      simp only [List.length_append, List.length_cons, List.length_nil] at size
      exact alone ⟨List.length_eq_zero_iff.1 (by omega), List.length_eq_zero_iff.1 (by omega)⟩
    have texts : pieceText outputs (.placeholder expression) =
        pieceText outputs (.placeholder other) := by
      rw [pieceText, pieceText, same]
    rw [resolveText_of_spliced outputs (split ▸ parts expression),
      resolveText_of_spliced outputs (split' ▸ parts other), split, split', fill, fill,
      pieceTexts_around outputs _ _ texts]

/-! ### Resolution -/

/-- Each text has one split into literal text and placeholders, which the scan finds, and a value
resolves to what it is with all placeholders replaced. Resolution fails exactly as the first site in
reading order at which it does; that some lookup or copy fails is the reason unless a value inside a
longer string has no text. Texts without placeholders stay, and blanks around an expression do not
matter. -/
theorem resolves_in_one_pass (outputs : Outputs) :
    (∀ pieces text, Piece.Decomposes pieces text ↔ Piece.ofChars text = pieces) ∧
      (∀ v w, resolve outputs v = .ok w ↔ Substitutes outputs v w) ∧
      (∀ v e, resolve outputs v = .error e ↔
        (sites v).findSome? (Site.error? outputs) = some e) ∧
      (∀ v, ((∃ e, resolve outputs v = .error e) ↔ ∃ site ∈ sites v, site.Refused outputs) ↔
        ((∃ site ∈ sites v, site.Untold outputs) → ∃ site ∈ sites v, site.Refused outputs)) ∧
      (∀ text, Literal (.str text) → resolve outputs (.str text) = .ok (.str text)) ∧
      ∀ before front expression back after, Piece.Plain expression →
        (∀ c ∈ front, Text.isBlank c = true) → (∀ c ∈ back, Text.isBlank c = true) →
        resolve outputs (.str (String.ofList
          (before ++ (Piece.braced (front ++ (expression ++ back)) ++ after)))) =
        resolve outputs (.str (String.ofList
          (before ++ (Piece.braced expression ++ after)))) := by
  refine ⟨Piece.decomposes_iff, resolve_ok_iff outputs, fun v e => ?_, fun v => ?_,
    fun text literal => ?_, ?_⟩
  · rw [← failure?_resolve outputs v, Success.failure?_eq_some_iff]
  · rw [fails_iff]
    exact ⟨fun claimed untold => claimed.1 (.inr untold),
      fun other => ⟨fun failing => failing.elim id other, .inl⟩⟩
  · rw [resolve, resolveText_of_literal outputs literal]
  · intro before front expression back after plain blank blank'
    have plain' : Piece.Plain (front ++ (expression ++ back)) := by
      intro c member
      rcases List.mem_append.1 member with member | member
      · exact isBrace_of_isBlank (blank c member)
      · rcases List.mem_append.1 member with member | member
        · exact plain c member
        · exact isBrace_of_isBlank (blank' c member)
    rw [resolve, resolve]
    exact resolveText_around outputs before after plain' plain
      (lookup_of_trim outputs (trim_around expression blank blank'))

/-- The text of an output completes two pairs of braces, and the placeholder that they make is not
looked at. -/
theorem resolves_in_one_pass_completed_braces :
    Substitutes [("a", .str "\x7bb\x7d"), ("b", .int 1)] (.str "\x7b\x7b\x7ba\x7d\x7d\x7d")
        (.str "\x7b\x7bb\x7d\x7d") ∧
      resolve [("b", .int 1)]
          (.list [.str "\x7b\x7bb\x7d\x7d", .str "\x7b\x7b c \x7d\x7d\x7b\x7ba\x7d\x7d"]) =
        .error (.unresolved ⟨"c", .notExecuted "c"⟩) ∧
      resolve [("b", .int 1)] (.str "x\x7b\x7b \tb\n\x7d\x7d") = .ok (.str "x1") := by
  have pass := resolves_in_one_pass [("b", .int 1)]
  refine ⟨((resolves_in_one_pass _).2.1 _ _).1 rfl, (pass.2.2.1 _ _).2 rfl, ?_⟩
  have plain : Piece.Plain ['b'] := by simp [Piece.Plain, Piece.isBrace]
  have front : ∀ c ∈ [' ', '\t'], Text.isBlank c = true := by simp [Text.isBlank, Text.isSpace]
  have back : ∀ c ∈ ['\n'], Text.isBlank c = true := by simp [Text.isBlank, Text.isSpace]
  exact (pass.2.2.2.2.2 ['x'] [' ', '\t'] ['b'] ['\n'] [] plain front back).trans rfl

/-- Every lookup succeeds and nothing refuses to be copied, and yet resolution fails: an object that
has no text, or one with a fixed sequence as a key, stands in a longer string. -/
theorem untold_value_fails :
    let untold : Raised := ⟨"TypeError", "__str__ returned non-string (type int)"⟩
    let outputs : Outputs := [("a", .foreign ⟨"T", .error ⟨untold, by decide⟩, .ok true, none⟩),
      ("b", .keyed [.other "tuple" "('x', 'y')"] [.int 1])]
    let v : Value := .str "v={{a}}"
    let w : Value := .str "v={{b}}"
    (∀ site ∈ sites v ++ sites w, ¬site.Refused outputs) ∧
      resolve outputs v = .error (.untold untold) ∧
      resolve outputs w = .error (.untold
        ⟨"TypeError", "keys must be str, int, float, bool or None, not tuple"⟩) := by
  intro untold outputs v w
  have among : sites v ++ sites w = [.spliced ['a'], .spliced ['b']] := rfl
  refine ⟨?_, rfl, rfl⟩
  rw [among]
  simp only [List.mem_cons, List.not_mem_nil, or_false, forall_eq_or_imp, forall_eq]
  exact ⟨fun refused => refused _ rfl, fun refused => refused _ rfl⟩

end Workflow.Template
