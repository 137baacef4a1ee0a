import Workflow.Proofs.Engine.Installed

/-!
What registrations come to. Each registration makes offers, a tool of one name a single one and a
family one for each of its members. Installing keeps the first offer of every name that is not one
of the engine's own, and both tables of the engine, the routes that steps take and the declarations
that descriptions show, are those of the offers that were kept.
-/
namespace Workflow

variable {σ : Type}

/-! ### Offers -/

/-- What a registration offers under one name. -/
structure Offer (σ : Type) where
  /-- The label of the family that the tool belongs to, if it belongs to one. -/
  family : Option String
  spec : ToolSpec
  action : Action σ

namespace Offer

def name (o : Offer σ) : String := o.spec.name

/-- The tools of a family share its label; any other is called by its name. -/
def label (o : Offer σ) : String := o.family.getD o.name

/-- What the tool is given for the arguments of a step. A family is told which tool is meant. -/
def given (o : Offer σ) (args : Value) : Value :=
  match o.family with
  | none => args
  | some _ => .dict [("tool", .str o.name), ("parameters", args)]

def route (o : Offer σ) : Route σ :=
  match o.family with
  | none => .single o.spec o.action
  | some label => .member label o.spec o.action

def entry (o : Offer σ) : String × Route σ := (o.name, o.route)

/-- What the descriptor of the tool says, with the schema of its results if there is one. -/
def descriptor (o : Offer σ) (learned : Option Schema) : Descriptor :=
  ⟨o.name, some o.spec.description, some o.spec.parameters, learned.elim .null Schema.toValue, none⟩

@[simp]
theorem spec?_route (o : Offer σ) : o.route.spec? = some o.spec := by
  unfold route
  cases o.family <;> rfl

theorem lookup_entries (offers : List (Offer σ)) (name : String) :
    (offers.map entry).lookup name = (offers.find? fun o => o.name == name).map route := by
  induction offers with
  | nil => rfl
  | cons o rest ih =>
    rw [List.map_cons, entry, List.lookup_cons, List.find?_cons, ih]
    by_cases same : name = o.name
    · simp [same]
    · simp [beq_eq_false_iff_ne.2 same, beq_eq_false_iff_ne.2 (Ne.symm same)]

theorem name_of_find? {offers : List (Offer σ)} {name : String} {o : Offer σ}
    (first : offers.find? (fun o => o.name == name) = some o) : o.name = name := by
  simpa using List.find?_some first

end Offer

namespace Registration

/-- The offers of a registration, in order. -/
def offers : Registration σ → List (Offer σ)
  | .single fields action =>
    match ToolSpec.ofFields fields with
    | .ok spec => [⟨none, spec, action⟩]
    | .error _ => []
  | .family label members action => members.map fun spec => ⟨some label, spec, action⟩
  | .unsupported _ => []

/-- A tool whose declared fields are valid, or a family of tools. -/
def Declared : Registration σ → Prop
  | .single fields _ => ∃ spec, ToolSpec.ofFields fields = .ok spec
  | .family .. => True
  | .unsupported _ => False

end Registration

/-! ### Registries -/

namespace Registry

theorem routesOf_of_declared {registration : Registration σ} (declared : registration.Declared) :
    routesOf registration = .ok (registration.offers.map Offer.entry) := by
  cases registration with
  | single fields action =>
    obtain ⟨spec, valid⟩ := declared
    simp only [routesOf, Registration.offers, valid]
    rfl
  | family label members action =>
    simp only [routesOf, Registration.offers, List.map_map]
    rfl
  | unsupported value => exact declared.elim

theorem has_iff_mem_keys (registry : Registry σ) (name : String) :
    Entries.has name registry = true ↔ name ∈ Entries.keys registry := by
  rw [Entries.has, Option.isSome_iff_exists, Entries.mem_keys_iff]

/-- What comes first is added first. -/
theorem extend_append (registry : Registry σ) (routes later : List (String × Route σ)) :
    (extend registry (routes ++ later)).1 = (extend (extend registry routes).1 later).1 := by
  induction routes generalizing registry with
  | nil => rfl
  | cons first rest ih =>
    obtain ⟨name, route⟩ := first
    cases known : Entries.has name registry with
    | true => simp only [List.cons_append, extend, known, if_true, ih]
    | false => simp only [List.cons_append, extend, known, Bool.false_eq_true, if_false, ih]

/-- A name leads where it has led, or else to the first route that is added under it. -/
theorem lookup_extend (registry : Registry σ) (routes : List (String × Route σ)) (name : String) :
    (extend registry routes).1.lookup name = (registry.lookup name).or (routes.lookup name) := by
  induction routes generalizing registry with
  | nil => simp [extend]
  | cons first rest ih =>
    obtain ⟨other, route⟩ := first
    cases known : Entries.has other registry with
    | true =>
      simp only [extend, known, if_true, ih]
      by_cases same : name = other
      · subst same
        obtain ⟨held, found⟩ := Option.isSome_iff_exists.1 known
        simp [found]
      · simp [List.lookup_cons, beq_eq_false_iff_ne.2 same]
    | false =>
      simp only [extend, known, Bool.false_eq_true, if_false, ih]
      rw [List.lookup_append, List.lookup_cons, List.lookup_cons]
      cases name == other <;> simp

/-- New names come after the old ones, in the order in which they come first. -/
theorem keys_extend (registry : Registry σ) (routes : List (String × Route σ)) :
    Entries.keys (extend registry routes).1 =
      Entries.keys registry ++
        ((Entries.keys routes).removeAll (Entries.keys registry)).eraseDups := by
  induction routes generalizing registry with
  | nil => simp [extend, Entries.keys, List.removeAll]
  | cons first rest ih =>
    obtain ⟨name, route⟩ := first
    have asked : Entries.keys ((name, route) :: rest) = name :: Entries.keys rest := rfl
    cases known : Entries.has name registry with
    | true =>
      have held : (Entries.keys registry).contains name = true :=
        List.contains_iff_mem.2 ((has_iff_mem_keys registry name).1 known)
      simp only [extend, known, if_true, ih, asked, List.cons_removeAll, held, reduceCtorEq,
        if_false]
    | false =>
      have free : (Entries.keys registry).contains name = false := by
        rw [Bool.eq_false_iff, ne_eq, List.contains_iff_mem, ← has_iff_mem_keys, known]
        exact Bool.false_ne_true
      have grown :
          Entries.keys (registry ++ [(name, route)]) = Entries.keys registry ++ [name] := by
        simp [Entries.keys]
      -- Of the later names the new one is struck off as well.
      have struck : (Entries.keys rest).removeAll (Entries.keys registry ++ [name]) =
          ((Entries.keys rest).removeAll (Entries.keys registry)).filter
            fun other => !other == name := by
        rw [List.removeAll, List.removeAll, List.filter_filter]
        refine List.filter_congr fun other _ => ?_
        by_cases same : other = name <;> simp [same]
      simp only [extend, known, Bool.false_eq_true, if_false, ih, grown, struck, asked,
        List.cons_removeAll, free, if_true, List.eraseDups_cons, List.append_assoc,
        List.singleton_append]

/-- A route under a name that is taken makes no difference. -/
theorem extend_of_taken {registry : Registry σ} {before after : List (String × Route σ)}
    {name : String} (route : Route σ)
    (taken : name ∈ Entries.keys registry ∨ name ∈ Entries.keys before) :
    (extend registry (before ++ (name, route) :: after)).1 =
      (extend registry (before ++ after)).1 := by
  have known : Entries.has name (extend registry before).1 = true := by
    have held : name ∈ Entries.keys (registry ++ before) := by
      simpa [Entries.keys] using taken
    obtain ⟨target, found⟩ := Entries.mem_keys_iff.1 held
    rw [Entries.has, lookup_extend, ← List.lookup_append, found]
    rfl
  rw [extend_append, extend_append, extend]
  simp only [known, if_true]

/-- Declared registrations can be installed, and come to what their offers come to. -/
theorem installOnto_of_declared (registry : Registry σ) {registrations : List (Registration σ)}
    (declared : ∀ r ∈ registrations, r.Declared) :
    ∃ noted, installOnto registry registrations =
      .ok ((extend registry ((registrations.flatMap Registration.offers).map Offer.entry)).1,
        noted) := by
  induction registrations generalizing registry with
  | nil => exact ⟨[], rfl⟩
  | cons first rest ih =>
    obtain ⟨later, installed⟩ :=
      ih (extend registry (first.offers.map Offer.entry)).1 fun r member =>
        declared r (.tail first member)
    rw [List.flatMap_cons, List.map_append, extend_append, installOnto,
      routesOf_of_declared (declared first (.head rest))]
    refine ⟨(extend registry (first.offers.map Offer.entry)).2 ++ later, ?_⟩
    simp only [bind, Except.bind, installed, pure, Except.pure]

theorem names_specs {registry : Registry σ} (declares : Declares registry) :
    (specs registry).map ToolSpec.name = Entries.keys registry := by
  induction registry with
  | nil => rfl
  | cons first rest ih =>
    obtain ⟨name, route⟩ := first
    obtain ⟨spec, held, named⟩ := declares name route (.head rest)
    have later := ih fun other target member => declares other target (.tail _ member)
    simp only [specs, Entries.keys] at later
    simp [specs, Entries.keys, held, named, later]

end Registry

/-- Declarations of different names are all listed, in their order. -/
theorem Catalogue.keys_ofSpecs {specs : List ToolSpec}
    (distinct : (specs.map ToolSpec.name).Nodup) :
    Entries.keys (ofSpecs specs) = specs.map ToolSpec.name := by
  have folded (known : List (String × ToolSpec))
      (fresh : (Entries.keys known ++ specs.map ToolSpec.name).Nodup) :
      Entries.keys (specs.foldl (fun known spec => if Entries.has spec.name known then known
        else known ++ [(spec.name, spec)]) known) =
      Entries.keys known ++ specs.map ToolSpec.name := by
    clear distinct
    induction specs generalizing known with
    | nil => simp
    | cons spec rest ih =>
      have outside : Entries.has spec.name known = false := by
        rw [Bool.eq_false_iff, ne_eq, Entries.has, Option.isSome_iff_exists, ← Entries.mem_keys_iff]
        intro held
        exact (List.nodup_append.1 fresh).2.2 spec.name held spec.name (by simp) rfl
      have grown :
          Entries.keys (known ++ [(spec.name, spec)]) = Entries.keys known ++ [spec.name] := by
        simp [Entries.keys]
      rw [List.foldl_cons, outside, if_neg Bool.false_ne_true, ih, grown, List.map_cons,
        List.append_assoc, List.singleton_append]
      rw [grown, List.append_assoc, List.singleton_append]
      exact fresh
  exact folded [] distinct

/-! ### Engines -/

namespace Engine

/-- The names of the engine's own tools. -/
def ownNames (settings : Settings) : List String := [describeName settings, runName settings]

/-- The same engine with another limit to the nesting of runs. -/
def limited (engine : Engine σ) (limit : Nat) : Engine σ :=
  { engine with limits := ⟨limit, engine.limits.texts⟩ }

variable {engine : Engine σ}

theorem invokeAt_limited (engine : Engine σ) (limit depth : Nat) :
    (engine.limited limit).invokeAt depth = engine.invokeAt depth := by
  induction depth with
  | zero => rfl
  | succ depth ih =>
    rw [invokeAt, ih]
    rfl

theorem invoke_of_route_none {name : String} (args : Value) (caller : Caller σ) (s : Session σ)
    (unknown : engine.route? name = none) :
    engine.invoke name args caller s =
      (.ok (.dict [("error", .str (notFoundText name))]), s.note (.unknownTool name)) := by
  unfold invoke
  cases engine.limits.runs <;> simp only [invokeAt, invokeWith, unknown]

theorem invoke_of_route_describeTools {name : String} (args : Value) (caller : Caller σ)
    (s : Session σ) (route : engine.route? name = some .describeTools) :
    engine.invoke name args caller s = ((engine.describeCall args s).mapError .told, s) := by
  unfold invoke
  cases engine.limits.runs <;> simp only [invokeAt, invokeWith, route]

/-- The tool that runs programs runs its arguments as the host would, with runs nested one less
deep. -/
theorem invoke_of_route_runProgram {name : String} (args : Value) (caller : Caller σ)
    (s : Session σ) (route : engine.route? name = some .runProgram) :
    engine.invoke name args caller s =
      match engine.limits.runs with
      | 0 => (.error (.told ⟨"RecursionError", "maximum recursion depth exceeded"⟩), s)
      | limit + 1 => (engine.limited limit).runProgram args caller s := by
  rw [invoke]
  cases engine.limits.runs with
  | zero => simp only [invokeAt, invokeWith, route, tooDeep]
  | succ limit =>
    have same : (engine.limited limit).execute =
        Execution.executeStep engine.learning (engine.invokeAt limit) := by
      rw [execute, invoke, invokeAt_limited]
      rfl
    rw [invokeAt, invokeWith_of_runProgram _ args caller s route]
    dsimp only
    rw [runProgram, run, same, nestedBy]
    rcases Run.complete (Execution.executeStep engine.learning (engine.invokeAt limit))
      (Program.read args) caller s with ⟨answer, after⟩
    cases answer <;> rfl

/-- Descriptions list the names of all routes but those of the engine's own tools. -/
theorem WellFormed.names_eq (formed : engine.WellFormed) :
    Entries.keys engine.registry = ownNames engine.settings ++ engine.toolNames := by
  obtain ⟨declared, registry, declares⟩ := formed.own
  have split :
      Entries.keys engine.registry = ownNames engine.settings ++ Entries.keys declared := by
    rw [registry]
    simp [Entries.keys, ownRoutes, ownNames]
  have listed : Registry.specs engine.registry = Registry.specs declared := by
    rw [registry]
    rfl
  have distinct := formed.distinct
  rw [split, ← Registry.names_specs declares, List.nodup_append] at distinct
  rw [split, toolNames, Catalogue.names, catalogue, listed, Catalogue.keys_ofSpecs distinct.2.1,
    Registry.names_specs declares]

/-- What is listed is what steps can delegate to. -/
theorem WellFormed.mem_toolNames_iff (formed : engine.WellFormed) (name : String) :
    name ∈ engine.toolNames ↔ engine.Delegates name := by
  have routed : name ∈ Entries.keys engine.registry ↔ ∃ route, engine.route? name = some route :=
    Entries.mem_keys_iff
  have own : name ∈ ownNames engine.settings ↔ engine.isBuiltin name = true := by
    rw [formed.isBuiltin_iff, ownNames, List.mem_cons, List.mem_singleton]
  have apart := formed.distinct
  rw [formed.names_eq, List.nodup_append] at apart
  constructor
  · intro listed
    obtain ⟨route, found⟩ : ∃ route, engine.route? name = some route := by
      rw [← routed, formed.names_eq]
      exact List.mem_append_right _ listed
    refine ⟨route, found, ?_⟩
    have foreign : engine.isBuiltin name = false := by
      rw [Bool.eq_false_iff, ne_eq, ← own]
      exact fun held => apart.2.2 name held name listed rfl
    simpa [isBuiltin, found] using foreign
  · rintro ⟨route, found, foreign⟩
    have held := routed.2 ⟨route, found⟩
    rw [formed.names_eq, List.mem_append, own] at held
    refine held.resolve_left ?_
    simp [isBuiltin, found, foreign]

/-- What an engine shows of the offers that were made to it. A name that is not one of its own
stands for the first offer under it, when it is invoked and when it is described. -/
structure Presents (engine : Engine σ) (offers : List (Offer σ)) : Prop where
  describes_tools : ∀ args caller s,
    engine.invoke (describeName engine.settings) args caller s =
      ((engine.describeCall args s).mapError .told, s)
  runs_programs : ∀ args caller s,
    engine.invoke (runName engine.settings) args caller s =
      match engine.limits.runs with
      | 0 => (.error (.told ⟨"RecursionError", "maximum recursion depth exceeded"⟩), s)
      | limit + 1 => (engine.limited limit).runProgram args caller s
  invokes : ∀ name ∉ ownNames engine.settings, ∀ args caller s,
    engine.invoke name args caller s =
      match offers.find? fun o => o.name == name with
      | some o =>
        let (answer, world) := o.action (o.given args) caller.context s.world
        (answer, { s.note (.called name o.label (o.given args) caller.context) with world })
      | none => (.ok (.dict [("error", .str (notFoundText name))]), s.note (.unknownTool name))
  lists : engine.toolNames =
    ((offers.map Offer.name).removeAll (ownNames engine.settings)).eraseDups
  lists_once : engine.toolNames.Nodup
  lists_delegated : ∀ name, name ∈ engine.toolNames ↔ engine.Delegates name
  describes : ∀ name ∉ ownNames engine.settings, ∀ learned,
    (engine.catalogue learned).describe name =
      match offers.find? fun o => o.name == name with
      | some o => o.descriptor (learned.lookup name)
      | none => ⟨name, none, none, .null, some (notFoundText name)⟩
  describes_own : ∀ name ∈ ownNames engine.settings, ∀ learned,
    (engine.catalogue learned).describe name =
      ⟨name, none, none, .null, some (notFoundText name)⟩

/-- The engine that is installed from some offers. -/
def ofOffers (settings : Settings) (limits : Limits) (offers : List (Offer σ)) : Engine σ :=
  ⟨settings, (Registry.extend (ownRoutes settings) (offers.map Offer.entry)).1, limits⟩

theorem install_of_declared (settings : Settings) (limits : Limits)
    {registrations : List (Registration σ)} (declared : ∀ r ∈ registrations, r.Declared) :
    ∃ noted, install settings limits registrations =
      .ok (ofOffers settings limits (registrations.flatMap Registration.offers), noted) := by
  obtain ⟨noted, installed⟩ := Registry.installOnto_of_declared (ownRoutes settings) declared
  rw [install, installed]
  exact ⟨_, rfl⟩

theorem keys_ownRoutes (settings : Settings) :
    Entries.keys (ownRoutes settings : Registry σ) = ownNames settings := rfl

/-- A name that is not one of the engine's own leads to the first offer under it. -/
theorem route?_ofOffers {settings : Settings} {limits : Limits} {offers : List (Offer σ)}
    {name : String} (foreign : name ∉ ownNames settings) :
    (ofOffers settings limits offers).route? name =
      (offers.find? fun o => o.name == name).map Offer.route := by
  have absent : (ownRoutes settings : Registry σ).lookup name = none := by
    rw [Option.eq_none_iff_forall_ne_some]
    intro route found
    exact foreign (Entries.mem_keys_iff.2 ⟨route, found⟩)
  rw [route?, ofOffers, Registry.lookup_extend, absent, Option.none_or, Offer.lookup_entries]

/-- Calling an offered tool is noted, and then the tool acts on what it is given. -/
theorem invoke_of_offer {engine : Engine σ} {o : Offer σ} (args : Value) (caller : Caller σ)
    (s : Session σ) (route : engine.route? o.name = some o.route) :
    engine.invoke o.name args caller s =
      let (answer, world) := o.action (o.given args) caller.context s.world
      (answer, { s.note (.called o.name o.label (o.given args) caller.context) with world }) := by
  have found : engine.delegation? o.name args =
      some ⟨o.name, o.label, o.action, o.given args⟩ := by
    unfold delegation?
    rw [route]
    unfold Offer.route Offer.label Offer.given
    cases o.family <;> rfl
  exact invoke_of_delegation caller s found

/-- The tools that are listed are those that are offered, each once, but for the engine's own
names. -/
theorem toolNames_ofOffers {settings : Settings} {limits : Limits} {offers : List (Offer σ)}
    (formed : (ofOffers settings limits offers).WellFormed) :
    (ofOffers settings limits offers).toolNames =
      ((offers.map Offer.name).removeAll (ownNames settings)).eraseDups := by
  have added := Registry.keys_extend (ownRoutes settings) (offers.map Offer.entry)
  have asked : Entries.keys (offers.map Offer.entry) = offers.map Offer.name := by
    rw [Entries.keys, List.map_map]
    rfl
  rw [keys_ownRoutes, asked] at added
  exact List.append_cancel_left (formed.names_eq.symm.trans added)

/-- A name that is not one of the engine's own is described by the first offer under it. -/
theorem describe_ofOffers {settings : Settings} {limits : Limits} {offers : List (Offer σ)}
    (formed : (ofOffers settings limits offers).WellFormed) {name : String}
    (foreign : name ∉ ownNames settings) (learned : List (String × Schema)) :
    ((ofOffers settings limits offers).catalogue learned).describe name =
      match offers.find? fun o => o.name == name with
      | some o => o.descriptor (learned.lookup name)
      | none => ⟨name, none, none, .null, some (notFoundText name)⟩ := by
  have leads : (ofOffers settings limits offers).route? name =
      (offers.find? fun o => o.name == name).map Offer.route := route?_ofOffers foreign
  cases first : offers.find? fun o => o.name == name with
  | none =>
    refine formed.describe_of_undeclared learned ?_
    rw [leads, first]
    rfl
  | some o =>
    have declared :
        ((ofOffers settings limits offers).route? name).bind Route.spec? = some o.spec := by
      rw [leads, first]
      exact o.spec?_route
    rw [formed.describe_of_declared learned declared, ← Offer.name_of_find? first]
    rfl

theorem presents_ofOffers (settings : Settings) (limits : Limits) (offers : List (Offer σ))
    (formed : (ofOffers settings limits offers).WellFormed) :
    (ofOffers settings limits offers).Presents offers := by
  have distinct := formed.distinct
  rw [formed.names_eq, List.nodup_append] at distinct
  refine ⟨fun args caller s => ?_, fun args caller s => ?_,
    fun name foreign args caller s => ?_, toolNames_ofOffers formed, distinct.2.1,
    formed.mem_toolNames_iff, fun name foreign => describe_ofOffers formed foreign,
    fun name own learned => ?_⟩
  · exact invoke_of_route_describeTools args caller s formed.route?_describeName
  · exact invoke_of_route_runProgram args caller s formed.route?_runName
  · have leads : (ofOffers settings limits offers).route? name =
        (offers.find? fun o => o.name == name).map Offer.route := route?_ofOffers foreign
    cases first : offers.find? fun o => o.name == name with
    | none =>
      rw [first] at leads
      exact invoke_of_route_none args caller s leads
    | some o =>
      rw [first, ← Offer.name_of_find? first] at leads
      rw [← Offer.name_of_find? first]
      exact invoke_of_offer args caller s leads
  · refine formed.describe_of_undeclared learned ?_
    rcases List.mem_cons.1 own with rfl | own
    · rw [formed.route?_describeName]
      rfl
    · obtain rfl := List.mem_singleton.1 own
      rw [formed.route?_runName]
      rfl

/-- However tools are registered, each name stands for one of them. A name of the engine's own is
its own tool, any other is the first tool that is offered under it, whether it is invoked or
described, and an offer under a name that is taken makes no difference at all. -/
theorem described_as_invoked (settings : Settings) (limits : Limits)
    (registrations : List (Registration σ)) (declared : ∀ r ∈ registrations, r.Declared) :
    ∃ engine noted, install settings limits registrations = .ok (engine, noted) ∧
      engine.settings = settings ∧ engine.limits = limits ∧
      engine.Presents (registrations.flatMap Registration.offers) ∧
      ∀ before taken after, registrations.flatMap Registration.offers = before ++ taken :: after →
        taken.name ∈ ownNames settings ++ before.map Offer.name →
        ∀ others : List (Registration σ), (∀ r ∈ others, r.Declared) →
          others.flatMap Registration.offers = before ++ after →
          ∃ noted', install settings limits others = .ok (engine, noted') := by
  obtain ⟨noted, installed⟩ := install_of_declared settings limits declared
  refine ⟨_, noted, installed, rfl, rfl,
    presents_ofOffers settings limits _ (install_wellFormed installed).1,
    fun before taken after split used others declared' split' => ?_⟩
  obtain ⟨noted', installed'⟩ := install_of_declared settings limits declared'
  have same : ofOffers settings limits (before ++ taken :: after) =
      ofOffers settings limits (before ++ after) := by
    have names : Entries.keys (before.map Offer.entry) = before.map Offer.name := by
      rw [Entries.keys, List.map_map]
      rfl
    rw [ofOffers, ofOffers, List.map_append, List.map_append, List.map_cons, Offer.entry,
      Registry.extend_of_taken]
    rw [keys_ownRoutes, names]
    exact List.mem_append.1 used
  exact ⟨noted', by rw [installed', split', split, same]⟩

/-- A family with a name twice and one of the engine's own, and a tool with the family's name: the
family's first member is all that is invoked and described. Its action counts its calls. -/
theorem described_as_invoked_overlapping :
    let registrations : List (Registration Nat) :=
      [.family "f" [⟨"t", "first", []⟩, ⟨"t", "second", []⟩, ⟨"code_exec_run_program", "", []⟩]
          fun args _ n => (.ok args, n + 1),
        .single [("name", .str "t")] fun _ _ _ => (.ok .null, 0)]
    let given : Value := .dict [("tool", .str "t"), ("parameters", .null)]
    (∀ r ∈ registrations, r.Declared) ∧
      ∃ engine noted, install .standard ⟨8, 8⟩ registrations = .ok (engine, noted) ∧
        engine.toolNames = ["t"] ∧
        ((engine.catalogue []).describe "t").description = some "first" ∧
        engine.invoke "t" .null ⟨.null, fun _ => false⟩ (.opening 5 noted) =
          (.ok given, .opening 6 (noted ++ [.called "t" "f" given .null])) := by
  intro registrations given
  have declared : ∀ r ∈ registrations, r.Declared := by
    intro r member
    simp only [registrations, List.mem_cons, List.not_mem_nil, or_false] at member
    rcases member with rfl | rfl
    · trivial
    · exact ⟨_, rfl⟩
  obtain ⟨engine, noted, installed, settings, _, presents, _⟩ :=
    described_as_invoked .standard ⟨8, 8⟩ registrations declared
  have foreign : "t" ∉ ownNames engine.settings := by
    rw [settings]
    decide
  refine ⟨declared, engine, noted, installed, ?_, ?_, ?_⟩
  · rw [presents.lists, settings]
    rfl
  · rw [presents.describes "t" foreign]
    rfl
  · rw [presents.invokes "t" foreign]
    simp [Session.opening, Session.note, given, registrations, Registration.offers, Offer.name,
      Offer.given, Offer.label]

end Engine

end Workflow
