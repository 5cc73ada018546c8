import RestModel.Proofs.Generation.Names

/-! # Names that link a model

Operations and methods mention the types of their resource by name. No two types of a
model have one name, because a name is taken before a type is built, and stays taken
when the build fails. -/

namespace RestModel

namespace ResourceModel

/-- A resource has a type of a role by a name. -/
def HasType (resource : ResourceModel) (role : TypeRole) (name : String) : Prop :=
  ∃ type ∈ resource.types, type.role = role ∧ type.name = name

/-- Every name on an operation or a method is that of a type of the resource, in the role
in which it is mentioned, and only those operations mention a type that can have one. -/
structure Linked (resource : ResourceModel) : Prop where
  requests : ∀ supported ∈ resource.operations, ∀ name ∈ supported.request,
    resource.HasType .requestBody name ∧
      (supported.operation = .create ∨ supported.operation = .update)
  responses : ∀ supported ∈ resource.operations, ∀ name ∈ supported.response,
    resource.HasType .responseModel name ∧ supported.operation ≠ .delete
  searches : ∀ supported ∈ resource.operations, ∀ name ∈ supported.searchParams,
    resource.HasType .searchParams name ∧ supported.operation = .list ∧
      .read ∈ resource.operations.map (·.operation)
  methodRequests : ∀ method ∈ resource.extraMethods, ∀ name ∈ method.request,
    resource.HasType .extraRequest name
  methodResponses : ∀ method ∈ resource.extraMethods, ∀ name ∈ method.response,
    resource.HasType .extraResponse name

end ResourceModel

namespace Generator

variable {generator : Generator}

/-! ## Roles of types -/

theorem role_of_buildType {name : String} {role : TypeRole} {source : TypeSource}
    {state after : GenerationState} {type : ResourceType}
    (run : generator.buildType name role source state = (.ok (some type), after)) :
    type.role = role := by
  have built := generator.buildsType name role source state
  rw [run] at built
  cases built
  rfl

theorem role_of_buildOrDrop {resource name : String} {role : TypeRole}
    {source : Option TypeSource} {support : Support} {state : GenerationState}
    {type : ResourceType}
    (built : (generator.buildOrDrop resource name role source support state).value = some type) :
    type.role = role := by
  unfold buildOrDrop at built
  split at built
  · contradiction
  · split at built
    · next run =>
        change _ = some type at built
        subst built
        exact role_of_buildType run
    · contradiction

/-- There is something to search by only where Read is bound to a route. -/
theorem searchParams_some {resource : String} {support : Support} {state : GenerationState}
    {type : ResourceType}
    (searched : (generator.searchParams resource support state).1 = some type) :
    type.role = .searchParams ∧ ∃ route, support.route? .read = some route := by
  unfold searchParams at searched
  split at searched
  · split at searched
    · contradiction
    · next route bound =>
        split at searched
        · dsimp only at searched
          split at searched
          · contradiction
          · cases searched
            exact ⟨rfl, route, bound⟩
        · contradiction
  · contradiction

theorem mem_routes_of_route? {support : Support} {operation : Operation} {route : Route}
    (bound : support.route? operation = some route) : (operation, route) ∈ support.routes := by
  rcases Option.map_eq_some_iff.mp bound with ⟨⟨found, _⟩, isFirst, rfl⟩
  have same : found = operation := by simpa using List.find?_some isFirst
  exact same ▸ List.mem_of_find?_eq_some isFirst

/-- The types that a method mentions are among some types. -/
def MethodLinked (types : List ResourceType) (method : SupportedMethod) : Prop :=
  (∀ name ∈ method.request, ∃ type ∈ types, type.role = .extraRequest ∧ type.name = name) ∧
    ∀ name ∈ method.response, ∃ type ∈ types, type.role = .extraResponse ∧ type.name = name

theorem MethodLinked.of_subset {types others : List ResourceType} {method : SupportedMethod}
    (linked : MethodLinked types method) (subset : types ⊆ others) :
    MethodLinked others method := by
  constructor
  · intro name mentioned
    rcases linked.1 name mentioned with ⟨type, member, links⟩
    exact ⟨type, subset member, links⟩
  · intro name mentioned
    rcases linked.2 name mentioned with ⟨type, member, links⟩
    exact ⟨type, subset member, links⟩

theorem roles_of_methodTypes {resource : String} {method : ExtraMethod}
    {state after : GenerationState} {request response : Option ResourceType}
    (run : generator.methodTypes resource method state = (.ok (request, response), after)) :
    (∀ type ∈ request, type.role = .extraRequest) ∧
      ∀ type ∈ response, type.role = .extraResponse := by
  unfold methodTypes at run
  dsimp only at run
  split at run
  · cases run
  · next requestRun =>
      split at run
      · cases run
      · next responseRun =>
          cases run
          constructor
          · rintro type ⟨⟩
            exact role_of_buildType requestRun
          · rintro type ⟨⟩
            exact role_of_buildType responseRun

private theorem supportedMethods_linked (generator : Generator) (resource : String)
    (methods : List ExtraMethod) (state : GenerationState) :
    ∀ method ∈ (generator.supportedMethods resource state methods).1,
      MethodLinked (generator.supportedMethods resource state methods).2.1 method := by
  induction methods generalizing state with
  | nil => nofun
  | cons method rest induction =>
      rcases run : generator.methodTypes resource method state with ⟨outcome, after⟩
      cases outcome with
      | error problem =>
          rw [supportedMethods_of_error run]
          exact induction after
      | ok types =>
          rcases types with ⟨request, response⟩
          rcases roles_of_methodTypes run with ⟨requestRole, responseRole⟩
          rw [supportedMethods_of_ok run]
          intro model member
          rcases List.mem_cons.mp member with rfl | member
          · constructor
            · intro name mentioned
              rcases Option.map_eq_some_iff.mp mentioned with ⟨type, built, rfl⟩
              exact ⟨type, by simp [built], requestRole type built, rfl⟩
            · intro name mentioned
              rcases Option.map_eq_some_iff.mp mentioned with ⟨type, built, rfl⟩
              exact ⟨type, by simp [built], responseRole type built, rfl⟩
          · exact (induction after model member).of_subset (List.subset_append_right _ _)

/-! ## Resources are linked -/

section Operations

variable {request response search : Option String} {bound : Operation × Route} {name : String}

private theorem mem_request_of_supportedOperation
    (mentioned : name ∈ (generator.supportedOperation request response search bound).request) :
    name ∈ request ∧ (bound.1 = .create ∨ bound.1 = .update) := by
  simp only [supportedOperation] at mentioned
  split at mentioned
  · next changes => exact ⟨mentioned, changes⟩
  · contradiction

private theorem mem_response_of_supportedOperation
    (mentioned : name ∈ (generator.supportedOperation request response search bound).response) :
    name ∈ response ∧ bound.1 ≠ .delete := by
  simp only [supportedOperation] at mentioned
  split at mentioned
  · contradiction
  · next kept => exact ⟨mentioned, kept⟩

private theorem mem_search_of_supportedOperation
    (mentioned : name ∈
      (generator.supportedOperation request response search bound).searchParams) :
    name ∈ search ∧ bound.1 = .list := by
  simp only [supportedOperation] at mentioned
  split at mentioned
  · next isList => exact ⟨mentioned, isList⟩
  · contradiction

end Operations

private theorem buildResource_linked (generator : Generator) (descriptor : Descriptor)
    (support : Support) (state : GenerationState) :
    (generator.buildResource descriptor support state).1.Linked := by
  let resource := (generator.buildResource descriptor support state).1
  let response := generator.responseType descriptor support state
  let request := generator.requestType descriptor response
  let search := generator.searchParams descriptor.name request.support request.state
  let methods := generator.supportedMethods descriptor.name search.2 request.support.extraMethods
  have types : resource.types = search.1.toList ++ request.value.toList ++
      response.value.toList ++ methods.2.1 := rfl
  have requestListed : ∀ type, request.value = some type → type ∈ resource.types := by
    intro type built
    simp [types, built]
  have responseListed : ∀ type, response.value = some type → type ∈ resource.types := by
    intro type built
    simp [types, built]
  have searchListed : ∀ type, search.1 = some type → type ∈ resource.types := by
    intro type built
    simp [types, built]
  have methodsLinked : ∀ method ∈ resource.extraMethods, MethodLinked resource.types method := by
    intro method member
    have linked := generator.supportedMethods_linked _ _ _ method member
    exact linked.of_subset (List.subset_append_right _ _)
  constructor
  · intro supported member name mentioned
    rcases List.mem_map.mp member with ⟨bound, _, rfl⟩
    rcases mem_request_of_supportedOperation mentioned with ⟨named, changes⟩
    rcases Option.map_eq_some_iff.mp named with ⟨type, built, rfl⟩
    exact ⟨⟨type, requestListed type built, role_of_buildOrDrop built, rfl⟩, changes⟩
  · intro supported member name mentioned
    rcases List.mem_map.mp member with ⟨bound, _, rfl⟩
    rcases mem_response_of_supportedOperation mentioned with ⟨named, kept⟩
    rcases Option.map_eq_some_iff.mp named with ⟨type, built, rfl⟩
    exact ⟨⟨type, responseListed type built, role_of_buildOrDrop built, rfl⟩, kept⟩
  · intro supported member name mentioned
    rcases List.mem_map.mp member with ⟨bound, _, rfl⟩
    rcases mem_search_of_supportedOperation mentioned with ⟨named, isList⟩
    rcases Option.map_eq_some_iff.mp named with ⟨type, built, rfl⟩
    rcases searchParams_some built with ⟨role, read, readBound⟩
    have readListed : .read ∈ resource.operations.map (·.operation) := by
      change _ ∈ (request.support.routes.map _).map _
      rw [List.map_map]
      exact List.mem_map_of_mem (mem_routes_of_route? readBound)
    exact ⟨⟨type, searchListed type built, role, rfl⟩, isList, readListed⟩
  · exact fun method member => (methodsLinked method member).1
  · exact fun method member => (methodsLinked method member).2

/-- No two types of a model have one name, and all names on operations and methods of a
resource are those of its own types, in their roles. -/
theorem generate_links {descriptors : List (String × Descriptor)} {model : ClientModel}
    (generated : generator.generate descriptors = .ok model) :
    ((model.resources.flatMap (·.types)).map (·.name)).Nodup ∧
      ∀ resource ∈ model.resources, resource.Linked := by
  constructor
  · rcases generate_runs generated with ⟨state, runs, _⟩
    exact runs.takes.nodup
  · intro resource isResource
    rcases exists_of_mem_resources generated isResource with
      ⟨descriptor, _, support, before, _, rfl⟩
    exact generator.buildResource_linked descriptor support before

end Generator

/-! ## A service of orders -/

/-- An object with the given properties, as it is written. -/
def writtenObject (properties : List (String × Json)) : Json :=
  .object [("properties", .object properties)]

/-- A service whose orders are listed and read as given, replaced, and cancelled in two
ways. -/
def orderService (order : Json) : Document where
  title := "Orders"
  paths :=
    let body (key kind : String) : Json :=
      writtenObject [(key, .object [("type", .string kind)])]
    let request (schema : Json) : Option Body :=
      some (.inline [(jsonMediaType, some schema)])
    let cancel : Endpoint :=
      ⟨none, none, request (body "reason" "string"), jsonAnswer (body "status" "string")⟩
    [("/orders", [(.get, ⟨none, none, none, jsonAnswer (.object [("items", order)])⟩)]),
      ("/orders/cancel", [(.post, cancel)]),
      ("/orders/\x7bid\x7d", [(.get, ⟨none, none, none, jsonAnswer order⟩),
        (.put, ⟨none, none, request (body "amount" "integer"), [("204", .inline [])]⟩)]),
      ("/orders/\x7bid\x7d/cancel", [(.post, cancel)])]
  components := []
  sharedRequests := []
  sharedResponses := []
  listWrapperKeys := []

/-- All that the service of orders has to offer. -/
def orderDescriptor : Descriptor :=
  { Descriptor.empty "Order" with
    operationSet := some (.of [.list, .read, .update] "/orders" "orders")
    extraMethods := [⟨.post, "/orders/\x7bid\x7d/cancel", none, "cancel one"⟩,
      ⟨.post, "/orders/cancel", none, "cancel all"⟩] }

namespace Generator

/-- The names of the types of all resources. -/
def typeNames (generated : Except Failure ClientModel) : Option (List String) :=
  generated.toOption.map fun model => (model.resources.flatMap (·.types)).map (·.name)

/-- Orders have a state. -/
def orders : Generator :=
  ⟨orderService (writtenObject [("state", .object [("type", .string "string")])]), .standard⟩

/-- Both methods ask for the same names. -/
theorem generate_links_orders :
    ∃ model, orders.generate [("Order", orderDescriptor)] = .ok model ∧
      (model.resources.flatMap (·.types)).map (·.name) =
        ["OrderSearchParams", "OrderRequest", "Order", "OrderPostCancelRequest",
          "OrderPostCancelResponse", "OrderPostCancelRequest_1", "OrderPostCancelResponse_1"] ∧
      ((model.resources.flatMap (·.types)).map (·.name)).Nodup ∧
      ∀ resource ∈ model.resources, resource.Linked := by
  have named : typeNames (orders.generate [("Order", orderDescriptor)]) =
      some ["OrderSearchParams", "OrderRequest", "Order", "OrderPostCancelRequest",
        "OrderPostCancelResponse", "OrderPostCancelRequest_1", "OrderPostCancelResponse_1"] := by
    decide +kernel
  cases generated : orders.generate [("Order", orderDescriptor)] with
  | error failure => simp [generated, typeNames, Except.toOption] at named
  | ok model =>
      rw [generated] at named
      exact ⟨model, rfl, Option.some.inj named, generate_links generated⟩

end Generator
end RestModel
