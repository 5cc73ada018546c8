import RestModel.Proofs.Generation.Accounts
import RestModel.Proofs.Generation.Links

/-! # Endpoints that a model names

A model names endpoints in its operations and methods and where the types of a resource
come from. All of them are declared: a check looks up every route before it keeps it,
and from then on routes are only taken away. -/

namespace RestModel

namespace Checker

variable {checker : Checker} {resource : String} {paths : ResourcePaths} {support : Support}

/-- Every operation of a support is bound to the route that it needs. -/
def RoutesBind (checker : Checker) (paths : ResourcePaths) (support : Support) : Prop :=
  ∀ bound ∈ support.routes, checker.Binds paths bound.1 bound.2

theorem RoutesBind.of_subset {other : Support} (binds : checker.RoutesBind paths support)
    (subset : other.routes ⊆ support.routes) : checker.RoutesBind paths other :=
  fun bound member => binds bound (subset member)

theorem RoutesBind.bind {operation : Operation} {route : Route}
    (binds : checker.RoutesBind paths support) (routed : checker.Binds paths operation route) :
    checker.RoutesBind paths (support.bind operation route) := by
  intro bound member
  rcases List.mem_append.mp member with old | new
  · exact binds bound old
  · rw [List.mem_singleton.mp new]
    exact routed

theorem RoutesBind.addOperation (binds : checker.RoutesBind paths support)
    (operation : Operation) :
    checker.RoutesBind paths (checker.addOperation resource paths support operation) := by
  have requested : checker.RoutesBind paths (support.request operation) := binds
  unfold Checker.addOperation
  dsimp only
  split
  · exact requested.of_subset (Support.routes_exclude_subset _ _ _ _ _)
  · next route found =>
      have added := requested.bind (route_eq_ok_iff.mp found)
      split
      · exact added.of_subset (Support.routes_exclude_subset _ _ _ _ _)
      · exact added

theorem RoutesBind.addOperations (binds : checker.RoutesBind paths support)
    (operations : List Operation) :
    checker.RoutesBind paths
      (operations.foldl (checker.addOperation resource paths) support) := by
  induction operations generalizing support with
  | nil => exact binds
  | cons operation rest induction => exact induction (binds.addOperation operation)

private theorem checkSet_routesBind {set : OperationSet}
    (checked : checker.checkSet resource set = .ok support) :
    checker.RoutesBind (checker.resourcePaths set.path) support := by
  have nothing : checker.RoutesBind (checker.resourcePaths set.path) .empty := nofun
  unfold checkSet at checked
  dsimp only at checked
  split at checked
  · cases checked
    exact (nothing.addOperations set.operations).of_subset (Support.routes_cascade_subset _ _)
  · contradiction

/-- Each route of a support is bound by the paths of the set that is declared. -/
theorem check_routesBind {descriptor : Descriptor}
    (checked : checker.check descriptor = .ok support) :
    ∀ bound ∈ support.routes, ∃ set, descriptor.operationSet = some set ∧
      checker.Binds (checker.resourcePaths set.path) bound.1 bound.2 := by
  rcases check_eq_ok checked with ⟨operations, isOk, rfl⟩
  rcases checker.addExtraMethods_eq descriptor.name descriptor.extraMethods operations with
    ⟨kept, issues, equal, _, _⟩
  rw [equal]
  intro bound member
  unfold checkOperations at isOk
  split at isOk
  · cases isOk
    contradiction
  · next set declared => exact ⟨set, declared, checkSet_routesBind isOk bound member⟩

/-- What a descriptor names by verb and path is declared if the descriptor passes. -/
theorem check_declared {descriptor : Descriptor}
    (checked : checker.check descriptor = .ok support) :
    ∀ named ∈ namedOperations descriptor,
      checker.document.hasEndpoint named.1.verb named.1.path = true := by
  unfold Checker.check at checked
  split at checked
  · contradiction
  · next undeclared => exact undeclared?_eq_none_iff.mp undeclared

end Checker

/-- All endpoints that the model of a resource names are declared, and its operations are
bound as the paths of the resource have it. -/
structure ResourceModel.Declared (checker : Checker) (resource : ResourceModel) : Prop where
  operations : ∀ supported ∈ resource.operations,
    checker.document.hasEndpoint supported.route.verb supported.route.path = true ∧
      ∃ path, resource.path = some path ∧
        checker.Binds (checker.resourcePaths path) supported.operation supported.route
  methods : ∀ method ∈ resource.extraMethods,
    checker.document.hasEndpoint method.verb method.path = true
  urls : ∀ url ∈ resource.requestUrl.toList ++ resource.responseUrl.toList,
    checker.document.hasEndpoint url.verb url.path = true

namespace Generator

variable {generator : Generator}

private theorem exists_of_standsFor {models : List SupportedMethod} {methods : List ExtraMethod}
    (standFor : List.Forall₂ SupportedMethod.StandsFor models methods) {model : SupportedMethod}
    (member : model ∈ models) : ∃ method ∈ methods, model.StandsFor method := by
  induction standFor with
  | nil => contradiction
  | cons first _ induction =>
      rcases List.mem_cons.mp member with rfl | member
      · exact ⟨_, List.mem_cons_self, first⟩
      · rcases induction member with ⟨method, isMethod, stands⟩
        exact ⟨method, List.mem_cons_of_mem _ isMethod, stands⟩

private theorem buildResource_declared {descriptor : Descriptor} {support : Support}
    (checked : generator.checker.check descriptor = .ok support) (state : GenerationState) :
    (generator.buildResource descriptor support state).1.Declared generator.checker := by
  let resource := (generator.buildResource descriptor support state).1
  let response := generator.responseType descriptor support state
  let request := generator.requestType descriptor response
  have named := Checker.check_declared checked
  have routes := generator.routes_requestType_subset descriptor support state
  rcases Checker.check_accounts checked with ⟨operationsAccount, methodsThin⟩
  have accounts := generator.buildResource_accounts operationsAccount methodsThin state
  constructor
  · intro supported member
    rcases List.mem_map.mp member with ⟨bound, isBound, rfl⟩
    rcases Checker.check_routesBind checked bound (routes isBound) with ⟨set, declared, binds⟩
    have path : resource.path = some set.path := by
      change descriptor.operationSet.map _ = _
      rw [declared]
      rfl
    exact ⟨binds.declared, set.path, path, binds⟩
  · intro model member
    rcases accounts.methods with ⟨kept, standFor, sublist, _⟩
    rcases exists_of_standsFor standFor member with ⟨method, isKept, verb, path, _⟩
    rw [verb, path]
    have listed := List.mem_map_of_mem (f := fun method : ExtraMethod =>
      ((⟨method.verb, method.path⟩ : Route), method.marker)) (sublist.subset isKept)
    exact named _ (List.mem_append_left _ listed)
  · have urls : resource.requestUrl.toList ++ resource.responseUrl.toList =
        (descriptor.requestUrl.toList ++ descriptor.responseUrl.toList).map
          fun url => ⟨url.verb, url.path⟩ := by
      rw [List.map_append, ← Option.toList_map, ← Option.toList_map]
      rfl
    intro url member
    rcases List.mem_map.mp (urls ▸ member) with ⟨override, isOverride, rfl⟩
    exact named _ (List.mem_append_right _ (List.mem_map_of_mem isOverride))

/-- A model names no endpoint that is not declared. -/
theorem generate_declared {descriptors : List (String × Descriptor)} {model : ClientModel}
    (generated : generator.generate descriptors = .ok model) :
    ∀ resource ∈ model.resources, resource.Declared generator.checker := by
  intro resource isResource
  rcases exists_of_mem_resources generated isResource with
    ⟨descriptor, _, support, before, checked, rfl⟩
  exact buildResource_declared checked before

/-- Orders are listed, read and replaced, by the one verb of an update that is declared. -/
theorem generate_declared_orders :
    ∃ model, orders.generate [("Order", orderDescriptor)] = .ok model ∧
      model.resources.map (fun resource =>
          resource.operations.map fun supported => (supported.operation, supported.route)) =
        [[(.list, ⟨.get, "/orders"⟩), (.read, ⟨.get, "/orders/\x7bid\x7d"⟩),
          (.update, ⟨.put, "/orders/\x7bid\x7d"⟩)]] ∧
      ∀ resource ∈ model.resources, resource.Declared orders.checker := by
  have routed : (orders.generate [("Order", orderDescriptor)]).toOption.map
      (fun model => model.resources.map fun resource =>
        resource.operations.map fun supported => (supported.operation, supported.route)) =
      some [[(.list, ⟨.get, "/orders"⟩), (.read, ⟨.get, "/orders/\x7bid\x7d"⟩),
        (.update, ⟨.put, "/orders/\x7bid\x7d"⟩)]] := by decide +kernel
  cases generated : orders.generate [("Order", orderDescriptor)] with
  | error failure => simp [generated, Except.toOption] at routed
  | ok model =>
      rw [generated] at routed
      exact ⟨model, rfl, Option.some.inj routed, generate_declared generated⟩

end Generator
end RestModel
