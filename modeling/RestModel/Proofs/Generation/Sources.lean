import RestModel.Proofs.Build.Problems
import RestModel.Proofs.Generation.Endpoints
import RestModel.Proofs.Support.Cascade

/-! # What the types of a resource are made from

The type of a resource's answers is made first, and the type of its requests after it.
Each is taken from one operation, and a build that fails excludes that operation. So an
operation can be lost once its answers are typed, and the requests of Update can be lost
with those of Create. -/

namespace RestModel

/-- The model that requests of an operation are made from is spoilt: its schema is
declared on the route of the operation, no type is made from it, and an issue says so. -/
structure ResourceModel.LosesRequest (resource : ResourceModel) (checker : Checker)
    (operation : Operation) : Prop where
  changes : operation = .create ∨ operation = .update
  untyped : resource.typesOf .requestBody = []
  spoilt : ∃ path route found name problem, resource.path = some path ∧
    checker.Binds (checker.resourcePaths path) operation route ∧
    checker.Declares route .request found ∧ found.schema.Spoils name problem ∧
    ⟨resource.name, operation.name, problem.reason, problem.message⟩ ∈ resource.issues

namespace Generator

variable {generator : Generator} {resource : String} {role : TypeRole} {support : Support}
  {requested : List Operation}

/-! ## What building a type or excluding its operation comes to -/

/-- All that can become of a source: no type is asked for, nothing is declared there, a
type is made from it, or what is declared there is spoilt. -/
inductive Outcome (generator : Generator) (resource : String) (role : TypeRole)
    (support : Support) : Option TypeSource → Option ResourceType → Support → Prop where
  | unasked : Outcome generator resource role support none none support
  | absent {source : TypeSource}
      (absent : ∀ found, ¬generator.checker.Declares source.route source.part found) :
      Outcome generator resource role support (some source) none support
  | built {source : TypeSource} {type : ResourceType} {found : PartSchema}
      (declares : generator.checker.Declares source.route source.part found)
      (isRole : type.role = role) (isSource : type.source = source.label) :
      Outcome generator resource role support (some source) (some type) support
  | failed {source : TypeSource} {found : PartSchema} {name : String} {problem : BuildError}
      (declares : generator.checker.Declares source.route source.part found)
      (spoils : found.schema.Spoils name problem) :
      Outcome generator resource role support (some source) none
        (excludeFailed resource source problem support)

theorem buildOrDrop_outcome (generator : Generator) (resource name : String) (role : TypeRole)
    (source? : Option TypeSource) (support : Support) (state : GenerationState) :
    let built := generator.buildOrDrop resource name role source? support state
    generator.Outcome resource role support source? built.value built.support := by
  cases source? with
  | none => exact .unasked
  | some source =>
      unfold buildOrDrop buildType
      dsimp only
      by_cases isPresent : generator.isPresent source = true
      · rcases isPresent_eq_true_iff.mp isPresent with ⟨found, declares⟩
        have ensures := Build.ensures_model generator.builder.enters
          (state.takeName name).1 found.schema (state.takeName name).2.build
        unfold Build.Ensures at ensures
        rw [if_pos isPresent, operation_eq_model declares, Builder.model]
        split at ensures
        · next built =>
            rw [built]
            exact .built declares rfl rfl
        · next failed =>
            rw [failed]
            exact .failed declares ensures
      · rw [if_neg isPresent]
        exact .absent fun found declares => isPresent (isPresent_eq_true_iff.mpr ⟨found, declares⟩)

private theorem Outcome.exists_source {source? : Option TypeSource} {type : ResourceType}
    {after : Support}
    (outcome : generator.Outcome resource role support source? (some type) after) :
    ∃ source, source? = some source ∧ type.source = source.label ∧ after = support := by
  cases outcome with
  | built _ _ isSource => exact ⟨_, rfl, isSource, rfl⟩

/-- Names of operations are no routes, so what is made from a route has another label. -/
theorem operation_of_label {source : TypeSource} {operation : Operation}
    (isLabel : source.label = operation.name) : source.operation = some operation := by
  unfold TypeSource.label at isLabel
  split at isLabel
  · next isOperation => exact isOperation.trans (congrArg some (Operation.name_injective isLabel))
  · exact absurd isLabel (operation.route_ne_name _ _)

/-- A failed build excludes its operation and nothing else, where no Read is lost. -/
theorem mem_excludeFailed (cascaded : support.IsCascaded resource) {source : TypeSource}
    (notRead : source.operation ≠ some .read) (problem : BuildError) {operation : Operation} :
    operation ∈ (excludeFailed resource source problem support).operations ↔
      operation ∈ support.operations ∧ source.operation ≠ some operation := by
  cases isOperation : source.operation with
  | none =>
      have noted : (support.note ⟨resource, source.route.display, problem.reason,
          problem.message⟩).IsCascaded resource :=
        cascaded.note fun operation => operation.route_ne_name _ _
      rw [excludeFailed_of_none isOperation, noted.mem_cascade]
      simp [Support.note]
  | some excluded =>
      have other : excluded ≠ .read := fun isRead => notRead (isRead ▸ isOperation)
      rw [excludeFailed_of_some isOperation, (cascaded.exclude other _ _).mem_cascade,
        Support.mem_exclude]
      simp [eq_comm]

theorem not_mem_excludeFailed {source : TypeSource} {operation : Operation}
    (isOperation : source.operation = some operation) (resource : String) (problem : BuildError)
    (support : Support) :
    operation ∉ (excludeFailed resource source problem support).operations := by
  rw [excludeFailed_of_some isOperation, Checker.mem_cascade, Support.mem_exclude]
  exact fun member => member.1.2 rfl

private theorem issue_mem_excludeFailed {source : TypeSource} {operation : Operation}
    (isOperation : source.operation = some operation)
    (supported : operation ∈ support.operations) (resource : String) (problem : BuildError) :
    ⟨resource, operation.name, problem.reason, problem.message⟩ ∈
      (excludeFailed resource source problem support).issues := by
  rw [excludeFailed_of_some isOperation]
  apply (Support.excludes_cascade _ _).issues
  have supports := Support.supports_eq_true_iff.mpr supported
  simp [Support.exclude, supports]

/-- An operation is kept, or the build of its own type fails. -/
theorem Outcome.keeps_or_fails {source? : Option TypeSource} {type? : Option ResourceType}
    {after : Support} (outcome : generator.Outcome resource role support source? type? after)
    (cascaded : support.IsCascaded resource)
    (notRead : ∀ source, source? = some source → source.operation ≠ some .read)
    {operation : Operation} (supported : operation ∈ support.operations) :
    operation ∈ after.operations ∨ ∃ source found name problem, source? = some source ∧
      source.operation = some operation ∧
      generator.checker.Declares source.route source.part found ∧
      found.schema.Spoils name problem ∧ type? = none ∧
      after = excludeFailed resource source problem support := by
  cases outcome with
  | unasked | absent | built => exact .inl supported
  | @failed source found name problem declares spoils =>
      by_cases isOperation : source.operation = some operation
      · exact .inr ⟨source, found, name, problem, rfl, isOperation, declares, spoils, rfl, rfl⟩
      · exact .inl ((mem_excludeFailed cascaded (notRead source rfl) problem).mpr
          ⟨supported, isOperation⟩)

/-! ## Sources of requests and answers -/

section Sources

variable {descriptor : Descriptor} {source : TypeSource} {operation : Operation} {route : Route}

private theorem bound_of_responseSource (isSource : responseSource descriptor support = some source)
    (isOperation : source.operation = some operation) :
    support.route? operation = some source.route := by
  rcases cases_of_overrideOrFirst isSource with
    ⟨url, -, rfl⟩ | ⟨-, candidate, -, route, bound, rfl⟩
  · contradiction
  · exact Option.some.inj isOperation ▸ bound

private theorem bound_of_requestSource (isSource : requestSource descriptor support = some source)
    (isOperation : source.operation = some operation) :
    (operation = .create ∨ operation = .update) ∧ source.part = .request ∧
      support.route? operation = some source.route := by
  rcases cases_of_overrideOrFirst isSource with
    ⟨url, -, rfl⟩ | ⟨-, candidate, listed, route, bound, rfl⟩
  · contradiction
  · cases isOperation
    simp only [List.mem_cons, List.not_mem_nil, or_false] at listed
    rcases listed with rfl | rfl
    · exact ⟨.inl rfl, rfl, bound⟩
    · exact ⟨.inr rfl, rfl, bound⟩

theorem requestSource_of_create (notOverridden : descriptor.requestUrl = none)
    (bound : support.route? .create = some route) :
    requestSource descriptor support = some ⟨some .create, route, .request⟩ := by
  simp [requestSource, overrideOrFirst, notOverridden, firstSource, bound]

theorem requestSource_of_update (notOverridden : descriptor.requestUrl = none)
    (unbound : support.route? .create = none) (bound : support.route? .update = some route) :
    requestSource descriptor support = some ⟨some .update, route, .request⟩ := by
  simp [requestSource, overrideOrFirst, notOverridden, firstSource, unbound, bound]

end Sources

/-! ## The types of a resource by their roles -/

theorem role_of_mem_supportedMethods (generator : Generator) (resource : String)
    (methods : List ExtraMethod) (state : GenerationState) :
    ∀ type ∈ (generator.supportedMethods resource state methods).2.1,
      type.role = .extraRequest ∨ type.role = .extraResponse := by
  induction methods generalizing state with
  | nil => nofun
  | cons method rest induction =>
      rcases run : generator.methodTypes resource method state with ⟨outcome, after⟩
      cases outcome with
      | error problem =>
          rw [supportedMethods_of_error run]
          exact induction after
      | ok types =>
          rcases roles_of_methodTypes run with ⟨requestRole, responseRole⟩
          rw [supportedMethods_of_ok run]
          intro type member
          rcases List.mem_append.mp member with own | others
          · rcases List.mem_append.mp own with isRequest | isResponse
            · exact .inl (requestRole type (Option.mem_toList.mp isRequest))
            · exact .inr (responseRole type (Option.mem_toList.mp isResponse))
          · exact induction after type others

private theorem typesOf_eq_nil {role : TypeRole} {types : List ResourceType}
    (others : ∀ type ∈ types, type.role ≠ role) : types.filter (·.role = role) = [] := by
  simpa using others

private theorem typesOf_eq_self {role : TypeRole} {types : List ResourceType}
    (same : ∀ type ∈ types, type.role = role) : types.filter (·.role = role) = types := by
  simpa using same

/-- Answers and requests have one type each, at most. -/
theorem typesOf_buildResource (generator : Generator) (descriptor : Descriptor)
    (support : Support) (state : GenerationState) :
    let resource := (generator.buildResource descriptor support state).1
    let response := generator.responseType descriptor support state
    resource.typesOf .responseModel = response.value.toList ∧
      resource.typesOf .requestBody = (generator.requestType descriptor response).value.toList := by
  intro resource response
  let request := generator.requestType descriptor response
  let search := generator.searchParams descriptor.name request.support request.state
  let methods := generator.supportedMethods descriptor.name search.2 request.support.extraMethods
  have types : resource.types = search.1.toList ++ request.value.toList ++
      response.value.toList ++ methods.2.1 := rfl
  have searchRole : ∀ type ∈ search.1.toList, type.role = .searchParams :=
    fun type member => (searchParams_some (Option.mem_toList.mp member)).1
  have requestRole : ∀ type ∈ request.value.toList, type.role = .requestBody :=
    fun type member => role_of_buildOrDrop (Option.mem_toList.mp member)
  have responseRole : ∀ type ∈ response.value.toList, type.role = .responseModel :=
    fun type member => role_of_buildOrDrop (Option.mem_toList.mp member)
  have methodRole := generator.role_of_mem_supportedMethods descriptor.name
    request.support.extraMethods search.2
  simp only [ResourceModel.typesOf, types, List.filter_append]
  constructor
  · rw [typesOf_eq_nil (by simp +contextual [searchRole]),
      typesOf_eq_nil (by simp +contextual [requestRole]), typesOf_eq_self responseRole,
      typesOf_eq_nil (by grind)]
    simp
  · rw [typesOf_eq_nil (by simp +contextual [searchRole]), typesOf_eq_self requestRole,
      typesOf_eq_nil (by simp +contextual [responseRole]), typesOf_eq_nil (by grind)]
    simp [request]

/-! ## Types of operations that are left -/

theorem not_supports_of_losesRequest {descriptor : Descriptor} {model : ResourceModel}
    {checker : Checker} {operation : Operation} (loses : model.LosesRequest checker operation)
    (accounts : model.Accounts descriptor) : ¬model.supports operation = true := by
  rcases loses.spoilt with ⟨_, _, _, _, problem, _, _, _, _, isIssue⟩
  have counted : Issue.countAbout operation.name model.issues ≠ 0 := by
    intro none
    exact List.count_eq_zero.mp none (List.mem_map_of_mem isIssue)
  rw [ResourceModel.supports_eq_true_iff]
  rcases accounts.operations operation with ⟨_, missing, _⟩ | ⟨_, _, none⟩ | ⟨_, missing, _⟩
  · exact missing
  · exact absurd none counted
  · exact missing

/-- Requests that cannot be typed are lost with their operation. -/
theorem losesRequest_of_failed {descriptor : Descriptor}
    (checked : generator.checker.check descriptor = .ok support) (state : GenerationState)
    {source : TypeSource} {operation : Operation} {found : PartSchema} {name : String}
    {problem : BuildError} :
    let response := generator.responseType descriptor support state
    let request := generator.requestType descriptor response
    requestSource descriptor response.support = some source →
    source.operation = some operation →
    generator.checker.Declares source.route source.part found →
    found.schema.Spoils name problem → request.value = none →
    request.support = excludeFailed descriptor.name source problem response.support →
    (generator.buildResource descriptor support state).1.LosesRequest generator.checker
      operation := by
  intro response request isSource isOperation declares spoils untyped left
  let resource := (generator.buildResource descriptor support state).1
  rcases bound_of_requestSource isSource isOperation with ⟨changes, isRequest, bound⟩
  have accounts : response.support.Accounts descriptor.requested :=
    (excludes_buildOrDrop _ _ _ _ _ _).accounts (Checker.check_accounts checked).1
  have supported : operation ∈ response.support.operations :=
    accounts.route?_isSome_iff.mp (Option.isSome_of_eq_some bound)
  have kept : (operation, source.route) ∈ support.routes :=
    routes_buildOrDrop_subset _ _ _ _ _ _ _ (mem_routes_of_route? bound)
  rcases Checker.check_routesBind checked _ kept with ⟨set, declared, binds⟩
  have path : resource.path = some set.path := by
    change descriptor.operationSet.map _ = _
    rw [declared]
    rfl
  have noted : ⟨descriptor.name, operation.name, problem.reason, problem.message⟩ ∈
      resource.issues := by
    have issue := issue_mem_excludeFailed isOperation supported descriptor.name problem
    rw [← left] at issue
    exact List.mem_append_left _ (List.mem_append_left _ issue)
  refine ⟨changes, ?_, set.path, source.route, found, name, problem, path, binds, ?_, spoils, noted⟩
  · rw [(generator.typesOf_buildResource descriptor support state).2, untyped]
    rfl
  · exact isRequest ▸ declares

private theorem buildResource_sources {descriptor : Descriptor}
    (checked : generator.checker.check descriptor = .ok support) (state : GenerationState) :
    let resource := (generator.buildResource descriptor support state).1
    ∀ type ∈ resource.types, type.role = .requestBody ∨ type.role = .responseModel →
      ∀ operation : Operation, type.source = operation.name →
        (resource.supports operation = true ↔
          ¬resource.LosesRequest generator.checker operation) := by
  intro resource type listed hasRole operation isSource
  let response := generator.responseType descriptor support state
  let request := generator.requestType descriptor response
  rcases Checker.check_accounts checked with ⟨accounts, thins⟩
  have final := generator.buildResource_accounts accounts thins state
  constructor
  · exact fun supports loses => not_supports_of_losesRequest loses final supports
  intro kept
  rw [ResourceModel.supports_eq_true_iff,
    generator.operations_buildResource accounts descriptor state]
  rcases generator.typesOf_buildResource descriptor support state with ⟨responses, requests⟩
  have answered : generator.Outcome descriptor.name .responseModel support
      (responseSource descriptor support) response.value response.support :=
    generator.buildOrDrop_outcome _ _ _ _ _ _
  have asked : generator.Outcome descriptor.name .requestBody response.support
      (requestSource descriptor response.support) request.value request.support :=
    generator.buildOrDrop_outcome _ _ _ _ _ _
  have excludes : support.Excludes response.support := excludes_buildOrDrop _ _ _ _ _ _
  have ofRole : type ∈ resource.typesOf type.role := by simpa [ResourceModel.typesOf] using listed
  rcases hasRole with isRequest | isResponse
  · rw [isRequest, requests] at ofRole
    rw [show request.value = some type from Option.mem_toList.mp ofRole] at asked
    rcases asked.exists_source with ⟨source, isFrom, isLabel, same⟩
    have isOperation := operation_of_label (isLabel.symm.trans isSource)
    have bound := (bound_of_requestSource isFrom isOperation).2.2
    change operation ∈ request.support.operations
    rw [same, ← (excludes.accounts accounts).route?_isSome_iff, bound]
    rfl
  · rw [isResponse, responses] at ofRole
    rw [show response.value = some type from Option.mem_toList.mp ofRole] at answered
    rcases answered.exists_source with ⟨source, isFrom, isLabel, same⟩
    have isOperation := operation_of_label (isLabel.symm.trans isSource)
    have bound := bound_of_responseSource isFrom isOperation
    have supported : operation ∈ response.support.operations := by
      rw [same, ← accounts.route?_isSome_iff, bound]
      rfl
    have cascaded : response.support.IsCascaded descriptor.name :=
      same ▸ Checker.check_isCascaded checked
    have notRead : ∀ source, requestSource descriptor response.support = some source →
        source.operation ≠ some .read := by
      intro source isRequest isRead
      rcases (bound_of_requestSource isRequest isRead).1 with isCreate | isUpdate <;> contradiction
    rcases asked.keeps_or_fails cascaded notRead supported with kept |
      ⟨source, found, name, problem, isRequest, isOperation, declares, spoils, untyped, left⟩
    · exact kept
    · exact absurd (losesRequest_of_failed checked state isRequest isOperation declares spoils
        untyped left) kept

/-- A type that is made from an operation has that operation, unless the operation was
lost to its requests after the type of its answers was made. -/
theorem generate_sources {descriptors : List (String × Descriptor)} {model : ClientModel}
    (generated : generator.generate descriptors = .ok model) :
    ∀ resource ∈ model.resources, ∀ type ∈ resource.types,
      type.role = .requestBody ∨ type.role = .responseModel →
      ∀ operation : Operation, type.source = operation.name →
        (resource.supports operation = true ↔
          ¬resource.LosesRequest generator.checker operation) := by
  intro resource isResource
  rcases exists_of_mem_resources generated isResource with
    ⟨descriptor, _, support, before, checked, rfl⟩
  exact buildResource_sources checked before

end Generator

/-! ## A service of changes -/

/-- A service in which orders are created and replaced, with bodies as given. -/
def changeService (created replaced : Option Json) : Document where
  title := "Orders"
  paths :=
    let body (schema : Option Json) : Option Body :=
      schema.map fun schema => .inline [(jsonMediaType, some schema)]
    let order : Json := writtenObject [("id", .object [("type", .string "string")])]
    [("/orders", [(.post, ⟨none, none, body created, jsonAnswer order⟩)]),
      ("/orders/\x7bid\x7d", [(.put, ⟨none, none, body replaced, [("204", .inline [])]⟩)])]
  components := []
  sharedRequests := []
  sharedResponses := []
  listWrapperKeys := []

/-- All that the service of changes has to offer. -/
def changeDescriptor : Descriptor :=
  { Descriptor.empty "Order" with
    operationSet := some (.of [.create, .update] "/orders" "orders") }

namespace Generator

def changes (created replaced : Option Json) : Generator :=
  ⟨changeService created replaced, .standard⟩

/-- A body from which a type is made. -/
def amount : Json := writtenObject [("amount", .object [("type", .string "integer")])]

/-- A body whose only property says nothing, so no type is made from it. -/
def shapeless : Json := writtenObject [("blob", .object [("type", .string "object")])]

/-- Answers are typed by Create, which is left. -/
theorem generate_sources_amount :
    ∃ model, (changes (some amount) none).generate [("Order", changeDescriptor)] = .ok model ∧
      ∃ resource ∈ model.resources, ∃ type ∈ resource.types, type.role = .responseModel ∧
        type.source = Operation.create.name ∧
        (resource.supports .create = true ↔
          ¬resource.LosesRequest (changes (some amount) none).checker .create) := by
  have seen : ((changes (some amount) none).generate [("Order", changeDescriptor)]).toOption.map
      (fun model => model.resources.any fun resource => resource.types.any fun type =>
        type.role = .responseModel && type.source = Operation.create.name) = some true := by
    decide +kernel
  rcases exists_ok_of_view seen with ⟨model, generated, found⟩
  simp only [List.any_eq_true, Bool.and_eq_true, decide_eq_true_eq] at found
  rcases found with ⟨resource, isResource, type, listed, isResponse, isSource⟩
  have sources := generate_sources generated resource isResource type listed (.inr isResponse)
    .create isSource
  exact ⟨model, generated, resource, isResource, type, listed, isResponse, isSource, sources⟩

/-- Answers are typed by Create, which is lost to its body. -/
theorem generate_sources_shapeless :
    ∃ model, (changes (some shapeless) none).generate [("Order", changeDescriptor)] = .ok model ∧
      ((model.resources.flatMap (·.types)).map fun type => (type.role, type.source),
          (model.resources.flatMap (·.operations)).map (·.operation)) =
        ([(.responseModel, "Create")], [.update]) := by
  have seen : ((changes (some shapeless) none).generate
      [("Order", changeDescriptor)]).toOption.map (fun model =>
        ((model.resources.flatMap (·.types)).map fun type => (type.role, type.source),
          (model.resources.flatMap (·.operations)).map (·.operation))) =
      some ([(.responseModel, "Create")], [.update]) := by decide +kernel
  exact exists_ok_of_view seen

end Generator

end RestModel
