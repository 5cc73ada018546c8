import RestModel.Proofs.Generation.Sources

/-! # Requests that a model keeps

Create and Update have one type of requests between them. It is made from the route of
Create wherever Create is left, so Update can do without the requests that its own route
declares. -/

namespace RestModel

namespace Generator

variable {generator : Generator} {resource : String} {role : TypeRole} {support : Support}
  {requested : List Operation}

private theorem route?_of_mem (accounts : support.Accounts requested) {operation : Operation}
    {route : Route} (bound : (operation, route) ∈ support.routes) :
    support.route? operation = some route := by
  have supported : operation ∈ support.operations := accounts.bound ▸ List.mem_map_of_mem bound
  have isBound := accounts.route?_isSome_iff.mpr supported
  rcases Option.isSome_iff_exists.mp isBound with ⟨first, isFirst⟩
  have nodup : (support.routes.map (·.1)).Nodup := accounts.bound ▸ accounts.nodup
  cases List.inj_on_of_nodup_map nodup (mem_routes_of_route? isFirst) bound rfl
  exact isFirst

section Requests

variable {descriptor : Descriptor} {route : Route}

private theorem untyped_of_losesRequest {state : GenerationState} {operation : Operation}
    (loses : (generator.buildResource descriptor support state).1.LosesRequest generator.checker
      operation) :
    (generator.requestType descriptor
      (generator.responseType descriptor support state)).value = none := by
  have untyped := loses.untyped
  rw [(generator.typesOf_buildResource descriptor support state).2] at untyped
  simpa using untyped

private theorem requestType_outcome (generator : Generator)
    {response : Generated (Option ResourceType)} {source : TypeSource}
    (isSource : requestSource descriptor response.support = some source) :
    generator.Outcome descriptor.name .requestBody response.support (some source)
      (generator.requestType descriptor response).value
      (generator.requestType descriptor response).support := by
  rw [← isSource]
  exact generator.buildOrDrop_outcome _ _ _ _ _ _

private theorem Outcome.of_absent {source : TypeSource} {type? : Option ResourceType}
    {after : Support}
    (outcome : generator.Outcome resource role support (some source) type? after)
    (absent : ∀ found, ¬generator.checker.Declares source.route source.part found) :
    type? = none ∧ after = support := by
  cases outcome with
  | absent => exact ⟨rfl, rfl⟩
  | built declares | failed declares => exact absurd declares (absent _)

private theorem Outcome.of_untyped {source : TypeSource} {after : Support}
    (outcome : generator.Outcome resource role support (some source) none after) :
    (∀ found, ¬generator.checker.Declares source.route source.part found) ∨
      ∃ found name problem, generator.checker.Declares source.route source.part found ∧
        found.schema.Spoils name problem ∧
        after = excludeFailed resource source problem support := by
  cases outcome with
  | absent absent => exact .inl absent
  | failed declares spoils => exact .inr ⟨_, _, _, declares, spoils, rfl⟩

/-- Where Create is left, its route decides about all requests. -/
theorem absent_or_losesRequest_of_untyped
    (checked : generator.checker.check descriptor = .ok support) (state : GenerationState)
    (notOverridden : descriptor.requestUrl = none) :
    let response := generator.responseType descriptor support state
    response.support.route? .create = some route →
    (generator.requestType descriptor response).value = none →
    (∀ found, ¬generator.checker.Declares route .request found) ∨
      (generator.buildResource descriptor support state).1.LosesRequest generator.checker
        .create := by
  intro response bound untyped
  have isSource := requestSource_of_create notOverridden bound
  have outcome := generator.requestType_outcome isSource
  rw [untyped] at outcome
  rcases outcome.of_untyped with absent | ⟨found, name, problem, declares, spoils, left⟩
  · exact .inl absent
  · exact .inr (losesRequest_of_failed checked state isSource rfl declares spoils untyped left)

/-- Without Create it is Update's own route that decides. -/
theorem typed_of_update (notOverridden : descriptor.requestUrl = none)
    {response : Generated (Option ResourceType)} {found : PartSchema}
    (unbound : response.support.route? .create = none)
    (bound : response.support.route? .update = some route)
    (declares : generator.checker.Declares route .request found)
    (kept : .update ∈ (generator.requestType descriptor response).support.operations) :
    (generator.requestType descriptor response).value ≠ none := by
  intro untyped
  have outcome := generator.requestType_outcome
    (requestSource_of_update notOverridden unbound bound)
  rw [untyped] at outcome
  rcases outcome.of_untyped with absent | ⟨_, _, problem, _, _, left⟩
  · exact absent found declares
  · rw [left] at kept
    exact not_mem_excludeFailed rfl _ _ _ kept

end Requests

private theorem buildResource_requests {descriptor : Descriptor}
    (checked : generator.checker.check descriptor = .ok support) (state : GenerationState)
    (notOverridden : descriptor.requestUrl = none) :
    let resource := (generator.buildResource descriptor support state).1
    ∀ supported ∈ resource.operations,
      supported.operation = .create ∨ supported.operation = .update →
      ∀ found, generator.checker.Declares supported.route .request found →
        (supported.request = none ↔ supported.operation = .update ∧
          ((∃ created ∈ resource.operations, created.operation = .create ∧
              ∀ found, ¬generator.checker.Declares created.route .request found) ∨
            resource.LosesRequest generator.checker .create)) := by
  intro resource supported listed changes found declares
  let response := generator.responseType descriptor support state
  let request := generator.requestType descriptor response
  have checkAccounts := Checker.check_accounts checked
  have accounts : response.support.Accounts descriptor.requested :=
    (excludes_buildOrDrop _ _ _ _ _ _).accounts checkAccounts.1
  have final := generator.buildResource_accounts checkAccounts.1 checkAccounts.2 state
  have earlier : request.support.routes ⊆ response.support.routes :=
    routes_buildOrDrop_subset _ _ _ _ _ _ _
  have bounds {model : SupportedOperation} (isListed : model ∈ resource.operations) :
      (model.operation, model.route) ∈ request.support.routes := by
    rcases List.mem_map.mp isListed with ⟨bound, isBound, rfl⟩
    exact isBound
  have routed {model : SupportedOperation} (isListed : model ∈ resource.operations) :
      response.support.route? model.operation = some model.route :=
    route?_of_mem accounts (earlier (bounds isListed))
  have named : supported.request = request.value.map (·.name) := by
    rcases List.mem_map.mp listed with ⟨bound, _, rfl⟩
    exact if_pos changes
  rw [named, Option.map_eq_none_iff]
  have own := routed listed
  cases changes with
  | inl isCreate =>
      -- Requests are made from Create's own route, and Create is still there.
      rw [isCreate] at own
      constructor
      · intro untyped
        rcases absent_or_losesRequest_of_untyped checked state notOverridden own untyped with
          absent | loses
        · exact absurd declares (absent found)
        · have isLeft : resource.supports .create = true :=
            ResourceModel.supports_eq_true_iff.mpr (isCreate ▸ List.mem_map_of_mem listed)
          exact absurd isLeft (not_supports_of_losesRequest loses final)
      · rintro ⟨isUpdate, _⟩
        rw [isCreate] at isUpdate
        contradiction
  | inr isUpdate =>
      rw [isUpdate] at own
      cases created : response.support.route? .create with
      | some route =>
          have outcome := generator.requestType_outcome
            (requestSource_of_create notOverridden created)
          constructor
          · intro untyped
            refine ⟨isUpdate, ?_⟩
            rcases absent_or_losesRequest_of_untyped checked state notOverridden created untyped
              with absent | loses
            · have same : request.support = response.support := (outcome.of_absent absent).2
              have isLeft : (.create, route) ∈ request.support.routes :=
                same ▸ mem_routes_of_route? created
              exact .inl ⟨_, List.mem_map_of_mem isLeft, rfl, absent⟩
            · exact .inr loses
          · rintro ⟨-, ⟨model, isListed, isCreate, absent⟩ | loses⟩
            · have bound := isCreate ▸ routed isListed
              cases Option.some.inj (created.symm.trans bound)
              exact (outcome.of_absent absent).1
            · exact untyped_of_losesRequest loses
      | none =>
          constructor
          · intro untyped
            have kept : .update ∈ request.support.operations := by
              rw [← generator.operations_buildResource checkAccounts.1 descriptor state]
              exact isUpdate ▸ List.mem_map_of_mem listed
            exact absurd untyped (typed_of_update notOverridden created own declares kept)
          · rintro ⟨-, ⟨model, isListed, isCreate, _⟩ | loses⟩
            · have bound := isCreate ▸ routed isListed
              exact absurd (created.symm.trans bound) nofun
            · exact untyped_of_losesRequest loses

/-- Requests are lost only with Update, and only where Create decides about them: it is
left without requests, or it was itself lost to them. -/
theorem generate_requests {descriptors : List (String × Descriptor)} {model : ClientModel}
    (generated : generator.generate descriptors = .ok model) :
    ∀ resource ∈ model.resources, resource.requestUrl = none →
      ∀ supported ∈ resource.operations,
        supported.operation = .create ∨ supported.operation = .update →
        ∀ found, generator.checker.Declares supported.route .request found →
          (supported.request = none ↔ supported.operation = .update ∧
            ((∃ created ∈ resource.operations, created.operation = .create ∧
                ∀ found, ¬generator.checker.Declares created.route .request found) ∨
              resource.LosesRequest generator.checker .create)) := by
  intro resource isResource notOverridden
  rcases exists_of_mem_resources generated isResource with
    ⟨descriptor, _, support, before, checked, rfl⟩
  exact buildResource_requests checked before (Option.map_eq_none_iff.mp notOverridden)

/-- Orders are created with a body that says nothing, and replaced with an amount. -/
def spoiltChanges : Generator := changes (some shapeless) (some amount)

/-- A spoilt body takes Create away, and the body of Update is lost with it. -/
theorem generate_requests_spoilt :
    ∃ model, spoiltChanges.generate [("Order", changeDescriptor)] = .ok model ∧
      ∃ resource ∈ model.resources, resource.requestUrl = none ∧
        ∃ supported ∈ resource.operations, supported.operation = .update ∧
          ∃ found, spoiltChanges.checker.Declares supported.route .request found ∧
            (supported.request = none ↔ supported.operation = .update ∧
              ((∃ created ∈ resource.operations, created.operation = .create ∧
                  ∀ found, ¬spoiltChanges.checker.Declares created.route .request found) ∨
                resource.LosesRequest spoiltChanges.checker .create)) := by
  have seen : (spoiltChanges.generate [("Order", changeDescriptor)]).toOption.map (fun model =>
      model.resources.any fun resource => resource.requestUrl = none &&
        resource.operations.any fun supported => supported.operation = .update &&
          spoiltChanges.isPresent ⟨none, supported.route, .request⟩) = some true := by
    decide +kernel
  rcases exists_ok_of_view seen with ⟨model, generated, found⟩
  rcases List.any_eq_true.mp found with ⟨resource, isResource, found⟩
  simp only [Bool.and_eq_true, decide_eq_true_eq, List.any_eq_true] at found
  rcases found with ⟨notOverridden, supported, listed, isUpdate, present⟩
  rcases isPresent_eq_true_iff.mp present with ⟨part, declares⟩
  have requests := generate_requests generated resource isResource notOverridden supported listed
    (.inr isUpdate) part declares
  exact ⟨model, generated, resource, isResource, notOverridden, supported, listed, isUpdate, part,
    declares, requests⟩

/-- Create and Update are both left, and the body that Update declares is not. -/
theorem generate_requests_unasked :
    ∃ model, (changes none (some amount)).generate [("Order", changeDescriptor)] = .ok model ∧
      (model.resources.flatMap fun resource => resource.operations.map fun supported =>
          (resource.requestUrl.isNone, supported.operation, supported.request,
            (changes none (some amount)).isPresent ⟨none, supported.route, .request⟩)) =
        [(true, .create, none, false), (true, .update, none, true)] := by
  have seen : ((changes none (some amount)).generate [("Order", changeDescriptor)]).toOption.map
      (fun model => model.resources.flatMap fun resource => resource.operations.map
        fun supported => (resource.requestUrl.isNone, supported.operation, supported.request,
          (changes none (some amount)).isPresent ⟨none, supported.route, .request⟩)) =
      some [(true, .create, none, false), (true, .update, none, true)] := by decide +kernel
  exact exists_ok_of_view seen

end Generator

end RestModel
