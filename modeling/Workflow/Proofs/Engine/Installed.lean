import Workflow.Proofs.Engine.Work
import Workflow.Proofs.Run.Boundary

/-!
What installing makes sure of. The engine's own tools come first, every other name is that of a
declared tool, and no name stands twice. So the tools that can be described are those that steps
can delegate to.
-/
namespace Workflow

variable {σ : Type}

/-! ### Registries -/

namespace Registry

/-- Every route leads to a tool that is declared under its name. -/
def Declares (registry : Registry σ) : Prop :=
  ∀ name route, (name, route) ∈ registry → ∃ spec, route.spec? = some spec ∧ spec.name = name

theorem Declares.append {registry added : Registry σ} (first : Declares registry)
    (second : Declares added) : Declares (registry ++ added) := by
  intro name route member
  exact (List.mem_append.1 member).elim (first name route) (second name route)

theorem declares_routesOf {registration : Registration σ} {routes : List (String × Route σ)}
    (success : routesOf registration = .ok routes) : Declares routes := by
  cases registration with
  | single fields action =>
    simp only [routesOf] at success
    split at success
    next spec checked =>
      cases success
      intro name route member
      obtain ⟨rfl, rfl⟩ : name = spec.name ∧ route = .single spec action := by simpa using member
      exact ⟨spec, rfl, rfl⟩
    · cases success
  | family label members action =>
    cases success
    intro name route member
    obtain ⟨spec, _, same⟩ := List.mem_map.1 member
    cases same
    exact ⟨spec, rfl, rfl⟩
  | unsupported value => cases success

/-- Extending keeps what is there and adds some of the routes under names of their own. -/
theorem extend_adds (registry : Registry σ) (routes : List (String × Route σ)) :
    ∃ added, (extend registry routes).1 = registry ++ added ∧ added ⊆ routes ∧
      ((Entries.keys registry).Nodup → (Entries.keys (registry ++ added)).Nodup) ∧
      ∀ entry ∈ (extend registry routes).2, ∃ name, entry = .duplicateTool name := by
  induction routes generalizing registry with
  | nil => exact ⟨[], by simp [extend], by simp, by simp, by simp [extend]⟩
  | cons first rest ih =>
    obtain ⟨name, route⟩ := first
    cases known : Entries.has name registry with
    | true =>
      obtain ⟨added, extended, inside, distinct, noted⟩ := ih registry
      simp only [extend, known, if_true, List.forall_mem_cons]
      exact ⟨added, extended, fun _ member => .tail _ (inside member), distinct, ⟨name, rfl⟩, noted⟩
    | false =>
      have free : name ∉ Entries.keys registry := by
        rw [Entries.mem_keys_iff]
        rintro ⟨held, found⟩
        simp [Entries.has, found] at known
      obtain ⟨added, extended, inside, distinct, noted⟩ := ih (registry ++ [(name, route)])
      rw [List.append_assoc] at extended distinct
      simp only [extend, known, Bool.false_eq_true, if_false]
      refine ⟨(name, route) :: added, extended, List.cons_subset_cons _ inside, ?_, noted⟩
      intro unique
      refine distinct ?_
      rw [Entries.keys, List.map_append, List.nodup_append]
      refine ⟨unique, by simp, fun other held new member => ?_⟩
      obtain rfl : new = name := by simpa using member
      rintro rfl
      exact free held

theorem installOnto_adds {registry full : Registry σ} {registrations : List (Registration σ)}
    {noted : List Entry} (success : installOnto registry registrations = .ok (full, noted)) :
    ∃ added, full = registry ++ added ∧ Declares added ∧
      ((Entries.keys registry).Nodup → (Entries.keys full).Nodup) ∧
      ∀ entry ∈ noted, ∃ name, entry = .duplicateTool name := by
  induction registrations generalizing registry full noted with
  | nil =>
    cases success
    exact ⟨[], by simp, by simp [Declares], id, by simp⟩
  | cons registration rest ih =>
    obtain ⟨routes, asked, success⟩ := Success.bind_ok success
    obtain ⟨⟨last, later⟩, installed, same⟩ := Success.bind_ok success
    cases same
    obtain ⟨added, extended, inside, distinct, duplicates⟩ := extend_adds registry routes
    rw [extended] at installed
    obtain ⟨others, rfl, declared, unique, noted⟩ := ih installed
    have own : Declares added := fun name route member =>
      declares_routesOf asked name route (inside member)
    refine ⟨added ++ others, List.append_assoc .., own.append declared,
      fun fresh => unique (distinct fresh), ?_⟩
    intro entry member
    exact (List.mem_append.1 member).elim (duplicates entry) (noted entry)

/-- The declaration of a name is that of the tool which the name leads to. -/
theorem find?_specs {registry : Registry σ} (distinct : (Entries.keys registry).Nodup)
    (named : ∀ name route spec, (name, route) ∈ registry → route.spec? = some spec →
      spec.name = name) (name : String) :
    (specs registry).find? (fun spec => spec.name == name) =
      (registry.lookup name).bind Route.spec? := by
  induction registry with
  | nil => rfl
  | cons first rest ih =>
    obtain ⟨key, route⟩ := first
    rw [Entries.keys, List.map_cons, List.nodup_cons] at distinct
    have later := ih distinct.2 fun name route spec member => named name route spec (.tail _ member)
    have split : specs ((key, route) :: rest) = route.spec?.toList ++ specs rest := by
      cases held : route.spec? <;> simp [specs, held]
    rw [split, List.find?_append, later, List.lookup_cons]
    by_cases same : name = key
    · subst same
      cases held : route.spec? with
      | some spec => simp [held, named name route spec (by simp) held]
      | none =>
        -- A tool of the engine's own has no declaration, and nothing else stands under its name.
        cases found : rest.lookup name with
        | none => simp [held]
        | some other => exact absurd (Entries.mem_keys_iff.2 ⟨other, found⟩) distinct.1
    · have other : (name == key) = false := by simpa using same
      cases held : route.spec? with
      | none => simp [other]
      | some spec =>
        simp [other, named key route spec (by simp) held, Ne.symm same]

end Registry

/-- The first declaration of a name is looked up. -/
theorem Catalogue.lookup_ofSpecs (specs : List ToolSpec) (name : String) :
    (ofSpecs specs).lookup name = specs.find? fun spec => spec.name == name := by
  have folded (known : List (String × ToolSpec)) :
      (specs.foldl (fun known spec => if Entries.has spec.name known then known
        else known ++ [(spec.name, spec)]) known).lookup name =
      (known.lookup name).or (specs.find? fun spec => spec.name == name) := by
    induction specs generalizing known with
    | nil => simp
    | cons spec rest ih =>
      rw [List.foldl_cons, ih]
      by_cases same : spec.name = name
      · subst same
        cases held : known.lookup spec.name <;> simp [Entries.has, held, List.lookup_append]
      · have other : (name == spec.name) = false := by simpa using Ne.symm same
        split <;> simp [List.lookup_append, List.lookup_cons, other, same]
  simpa [ofSpecs] using folded []

/-! ### Engines -/

namespace Engine

/-- The engine's own tools come first, all other tools are declared, and no name stands twice. -/
structure WellFormed (engine : Engine σ) : Prop where
  distinct : (Entries.keys engine.registry).Nodup
  own : ∃ declared, engine.registry = ownRoutes engine.settings ++ declared ∧
    Registry.Declares declared

theorem install_wellFormed {settings : Settings} {limits : Limits}
    {registrations : List (Registration σ)} {engine : Engine σ} {noted : List Entry}
    (success : install settings limits registrations = .ok (engine, noted)) :
    engine.WellFormed ∧ ∀ entry ∈ noted, entry.result? = none := by
  obtain ⟨⟨registry, duplicates⟩, installed, same⟩ := Success.bind_ok success
  cases same
  obtain ⟨added, rfl, declared, distinct, noted⟩ := Registry.installOnto_adds installed
  refine ⟨⟨distinct ?_, added, rfl, declared⟩, ?_⟩
  · simpa [ownRoutes, Entries.keys] using (Request.runName_ne_describeName settings).symm
  · intro entry member
    rcases List.mem_append.1 member with member | member
    · obtain ⟨name, rfl⟩ := noted entry member
      rfl
    · obtain rfl := List.mem_singleton.1 member
      rfl

namespace WellFormed

variable {engine : Engine σ}

theorem route?_describeName (formed : engine.WellFormed) :
    engine.route? (describeName engine.settings) = some .describeTools := by
  obtain ⟨declared, registry, _⟩ := formed.own
  simp [route?, registry, ownRoutes]

theorem route?_runName (formed : engine.WellFormed) :
    engine.route? (runName engine.settings) = some .runProgram := by
  obtain ⟨declared, registry, _⟩ := formed.own
  have other : (runName engine.settings == describeName engine.settings) = false := by
    simpa using Request.runName_ne_describeName engine.settings
  simp [route?, registry, ownRoutes, List.lookup_cons, other]

theorem mem_of_route? {name : String} {route : Route σ} (found : engine.route? name = some route) :
    (name, route) ∈ engine.registry := Entries.mem_of_lookup found

/-- The engine's own tools are the two that it brings. -/
theorem isBuiltin_iff (formed : engine.WellFormed) (name : String) :
    engine.isBuiltin name = true ↔
      name = describeName engine.settings ∨ name = runName engine.settings := by
  constructor
  · intro own
    obtain ⟨route, found, builtin⟩ := (Option.any_eq_true ..).1 own
    obtain ⟨declared, registry, declares⟩ := formed.own
    have member := mem_of_route? found
    rw [registry, List.mem_append] at member
    rcases member with member | member
    · simp only [ownRoutes, List.mem_cons, Prod.mk.injEq, List.not_mem_nil, or_false] at member
      exact member.imp And.left And.left
    · obtain ⟨spec, held, _⟩ := declares name route member
      cases route <;> simp [Route.spec?, Route.isBuiltin] at held builtin
  · rintro (rfl | rfl)
    · simp [isBuiltin, formed.route?_describeName, Route.isBuiltin]
    · simp [isBuiltin, formed.route?_runName, Route.isBuiltin]

/-- A declared tool stands under its own name. -/
theorem name_of_mem (formed : engine.WellFormed) {name : String} {route : Route σ} {spec : ToolSpec}
    (member : (name, route) ∈ engine.registry) (held : route.spec? = some spec) :
    spec.name = name := by
  obtain ⟨declared, registry, declares⟩ := formed.own
  rw [registry, List.mem_append] at member
  rcases member with member | member
  · simp only [ownRoutes, List.mem_cons, Prod.mk.injEq, List.not_mem_nil, or_false] at member
    obtain ⟨_, rfl⟩ | ⟨_, rfl⟩ := member <;> cases held
  · obtain ⟨other, same, named⟩ := declares name route member
    rw [held, Option.some.injEq] at same
    rw [same, named]

theorem name_of_route? (formed : engine.WellFormed) {name : String} {route : Route σ}
    {spec : ToolSpec} (found : engine.route? name = some route) (held : route.spec? = some spec) :
    spec.name = name :=
  formed.name_of_mem (mem_of_route? found) held

/-- A delegated tool is called by the name that leads to it. -/
theorem tool_of_delegation? (formed : engine.WellFormed) {name : String} {args : Value}
    {d : Delegation σ} (found : engine.delegation? name args = some d) : d.tool = name := by
  unfold delegation? at found
  split at found
  next spec action route =>
    cases found
    exact formed.name_of_route? route rfl
  next label spec action route =>
    cases found
    exact formed.name_of_route? route rfl
  · cases found

/-- What can be described is what steps can delegate to. -/
theorem lookup_specs (formed : engine.WellFormed) (learned : List (String × Schema))
    (name : String) :
    (engine.catalogue learned).specs.lookup name = (engine.route? name).bind Route.spec? := by
  rw [catalogue, Catalogue.lookup_ofSpecs]
  exact Registry.find?_specs formed.distinct (fun _ _ _ => formed.name_of_mem) name

/-- A name is described by the declaration of the tool that it leads to. -/
theorem describe_of_declared (formed : engine.WellFormed) {name : String}
    {spec : ToolSpec} (learned : List (String × Schema))
    (declared : (engine.route? name).bind Route.spec? = some spec) :
    (engine.catalogue learned).describe name =
      ⟨name, some spec.description, some spec.parameters,
        (learned.lookup name).elim .null Schema.toValue, none⟩ := by
  obtain ⟨route, found, own⟩ := Option.bind_eq_some_iff.1 declared
  rw [Catalogue.describe, formed.lookup_specs, declared]
  dsimp only
  rw [formed.name_of_route? found own]
  rfl

theorem describe_of_undeclared (formed : engine.WellFormed) {name : String}
    (learned : List (String × Schema))
    (undeclared : (engine.route? name).bind Route.spec? = none) :
    (engine.catalogue learned).describe name =
      ⟨name, none, none, .null, some (notFoundText name)⟩ := by
  rw [Catalogue.describe, formed.lookup_specs, undeclared]

end WellFormed
end Engine
end Workflow
