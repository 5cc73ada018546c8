import RestModel.Proofs.Build.Origins
import RestModel.Proofs.Generation.Links

/-! # Types of resources and shared types of one name

While a model is generated, a builder is used by a list of calls, one for each type
that is built. The name of such a type is chosen apart from all other types of
resources, but not from the types that the builder shares: those are named after
components and after the places of nested objects. -/

namespace RestModel.Generator

variable {generator : Generator} {asks : TypeDemand → Prop}

/-- A call that is made while types are built that are asked for. -/
inductive IsCall (asks : TypeDemand → Prop) : BuilderCall → Prop where
  | build {stem : String} {role : TypeRole} {source : TypeSource} (index : Nat) :
      asks (.build stem role source) →
      IsCall asks (.build (.operation (Naming.candidate stem index) source.route.verb
        source.route.path source.part))
  | takeOmitted : IsCall asks .takeOmitted

/-- What is built in one state comes to what is built in another by calls that are made
for types that are asked for. -/
def Calls (generator : Generator) (asks : TypeDemand → Prop) (before after : BuildState) : Prop :=
  ∃ calls : List BuilderCall, (∀ call ∈ calls, IsCall asks call) ∧
    after = calls.foldl generator.builder.call before

theorem Calls.refl (state : BuildState) : generator.Calls asks state state :=
  ⟨[], nofun, rfl⟩

theorem Calls.single {state after : BuildState} {call : BuilderCall} (isCall : IsCall asks call)
    (run : after = generator.builder.call state call) : generator.Calls asks state after :=
  ⟨[call], fun _ member => List.mem_singleton.mp member ▸ isCall, run⟩

theorem Calls.trans {first second third : BuildState} (left : generator.Calls asks first second)
    (right : generator.Calls asks second third) : generator.Calls asks first third := by
  rcases left with ⟨earlier, earlierCalls, rfl⟩
  rcases right with ⟨later, laterCalls, rfl⟩
  refine ⟨earlier ++ later, ?_, (List.foldl_append).symm⟩
  intro call member
  rcases List.mem_append.mp member with old | new
  · exact earlierCalls call old
  · exact laterCalls call new

theorem Step.calls {before after : GenerationState} {types : List ResourceType}
    (step : generator.Step asks before types after) :
    generator.Calls asks before.build after.build := by
  cases step with
  | @build stem role source _ _ _ isAsked built =>
      rcases GenerationState.takeName_candidate before stem with ⟨index, chosen⟩
      -- The builder is called by the name that is chosen.
      have isCall := IsCall.build index isAsked
      rw [← chosen] at isCall
      cases built with
      | absent => exact .refl _
      | built run =>
          refine .single isCall ?_
          simp only [Builder.call, Builder.build, Build.stateAfter, run]
      | failed run =>
          refine .single isCall ?_
          simp only [Builder.call, Builder.build, Build.stateAfter, run]
  | search => exact .refl _
  | takeOmitted => exact .single .takeOmitted rfl

theorem Runs.calls {before after : GenerationState} {types : List ResourceType}
    (runs : generator.Runs asks before types after) :
    generator.Calls asks before.build after.build := by
  induction runs with
  | refl => exact .refl _
  | tail _ step induction => exact induction.trans step.calls
  | select _ _ induction => exact induction

/-- A name that the type of a nested object may get: of one within a component, or of one
within a model that is asked for, under any of its names. -/
inductive NamesNested (generator : Generator) (asks : TypeDemand → Prop) (name : String) :
    Prop where
  | component {component : Component} : component.IsOf generator.document.component? →
      name ∈ component.schema.innerNames component.typeName → NamesNested generator asks name
  | model {stem : String} {role : TypeRole} {source : TypeSource} {found : PartSchema}
      (index : Nat) : asks (.build stem role source) →
      generator.document.operationSchema source.route.verb source.route.path source.part =
        .ok (some found) →
      name ∈ found.schema.modelNames (Naming.candidate stem index) →
      NamesNested generator asks name

private theorem namesNested_of_mem {calls : List BuilderCall}
    (areCalls : ∀ call ∈ calls, IsCall asks call) {name : String}
    (member : name ∈ generator.builder.nestedNames calls) : generator.NamesNested asks name := by
  rcases List.mem_append.mp member with ofModel | ofComponent
  · rcases List.mem_flatMap.mp ofModel with ⟨call, isCall, named⟩
    cases areCalls call isCall with
    | build index isAsked =>
        simp only [Builder.callNames, Builder.objectNames] at named
        split at named
        · next found isFound => exact .model index isAsked isFound named
        · contradiction
    | takeOmitted => contradiction
  · rcases List.mem_flatMap.mp ofComponent with ⟨component, isComponent, named⟩
    exact .component (Builder.mem_components_iff.mp isComponent) named

/-- How a shared type comes by a name. -/
inductive SharesName (generator : Generator) (asks : TypeDemand → Prop) (name : String) :
    RecordType → Prop where
  | component {type : RecordType} {component : Component} :
      component.IsOf generator.document.component? → component.typeName = name →
      type.component = some component.name → SharesName generator asks name type
  | nested {type : RecordType} : generator.NamesNested asks name → type.component = none →
      SharesName generator asks name type

private theorem Runs.sharesName {after : GenerationState} {types : List ResourceType}
    (runs : generator.Runs asks .empty types after) :
    ∀ type ∈ Keyed.values after.build.types, generator.SharesName asks type.name type := by
  rcases runs.calls with ⟨calls, areCalls, built⟩
  have origins := generator.builder.stateAfter_origins calls
  intro type member
  rw [built] at member
  rcases List.mem_map.mp member with ⟨entry, isEntry, rfl⟩
  have allowed := origins.1 entry isEntry
  generalize entry.2 = type at allowed
  cases allowed with
  | component isComponent list => exact .component isComponent rfl rfl
  | object isObject list doc => exact .nested (namesNested_of_mem areCalls isObject) rfl

/-- A type of a resource and a shared type may have one name: the resource asks for the
name, perhaps with a number, and the shared type comes by it as well. -/
structure Clashes (generator : Generator) (descriptors : List (String × Descriptor))
    (resource : ResourceModel) (type : ResourceType) (shared : RecordType) : Prop where
  asked : ∃ descriptor ∈ Keyed.values descriptors, descriptor.name = resource.name ∧
    ∃ support, generator.checker.check descriptor = .ok support ∧
      Demanded (descriptor.Asks support) type
  shared : generator.SharesName (generator.AsksIn descriptors) type.name shared

/-- The names of types in a model are unambiguous, unless a name that a resource asks for
is also that of a component's type or of a nested object's. -/
theorem generate_clashes {descriptors : List (String × Descriptor)} {model : ClientModel}
    (generated : generator.generate descriptors = .ok model) {resource : ResourceModel}
    (isResource : resource ∈ model.resources) {type : ResourceType}
    (isType : type ∈ resource.types) {shared : RecordType} (isShared : shared ∈ model.types) :
    shared.name ≠ type.name ∨ generator.Clashes descriptors resource type shared := by
  by_cases same : shared.name = type.name
  · right
    constructor
    · rcases exists_of_mem_resources generated isResource with
        ⟨descriptor, declared, support, before, passed, rfl⟩
      have runs := generator.buildResource_runs descriptor support before
      exact ⟨descriptor, declared, rfl, support, passed, runs.demanded type isType⟩
    · rcases generate_runs generated with ⟨state, runs, types, _⟩
      rw [← same]
      exact runs.sharesName shared (types ▸ isShared)
  · exact .inl same

/-- A model has a type made of fields and a shared type of one name. -/
def IsAmbiguous (model : ClientModel) : Prop :=
  ∃ resource ∈ model.resources, ∃ type ∈ resource.types, (type.body matches .fields _) ∧
    ∃ shared ∈ model.types, shared.name = type.name

instance : DecidablePred IsAmbiguous := fun model =>
  inferInstanceAs (Decidable (∃ resource ∈ model.resources, ∃ type ∈ resource.types,
    (type.body matches .fields _) ∧ ∃ shared ∈ model.types, shared.name = type.name))

/-- An order shows the request that it was made by. -/
def requestedOrders : Generator where
  document := orderService (writtenObject
    [("request", writtenObject [("sender", .object [("type", .string "string")])])])
  policy := .standard

private theorem isAmbiguous_requestedOrders :
    (requestedOrders.generate [("Order", orderDescriptor)]).toOption.map
      (fun model => decide (IsAmbiguous model)) = some true := by
  decide +kernel

theorem generate_clashes_orders :
    ∃ model, requestedOrders.generate [("Order", orderDescriptor)] = .ok model ∧
      ∃ resource ∈ model.resources, ∃ type ∈ resource.types, ∃ shared ∈ model.types,
        requestedOrders.Clashes [("Order", orderDescriptor)] resource type shared := by
  have ambiguous := isAmbiguous_requestedOrders
  cases generated : requestedOrders.generate [("Order", orderDescriptor)] with
  | error failure => simp [generated, Except.toOption] at ambiguous
  | ok model =>
      rw [generated] at ambiguous
      rcases of_decide_eq_true (Option.some.inj ambiguous) with
        ⟨resource, isResource, type, isType, _, shared, isShared, same⟩
      have clashes := generate_clashes generated isResource isType isShared
      exact ⟨model, rfl, resource, isResource, type, isType, shared, isShared,
        clashes.resolve_left (absurd same)⟩

/-- The request to replace an order and the request that an order shows are two types of
one name. -/
theorem generate_ambiguous_requests :
    ∃ model, requestedOrders.generate [("Order", orderDescriptor)] = .ok model ∧
      IsAmbiguous model := by
  have ambiguous := isAmbiguous_requestedOrders
  cases generated : requestedOrders.generate [("Order", orderDescriptor)] with
  | error failure => simp [generated, Except.toOption] at ambiguous
  | ok model =>
      rw [generated] at ambiguous
      exact ⟨model, rfl, of_decide_eq_true (Option.some.inj ambiguous)⟩

end RestModel.Generator
