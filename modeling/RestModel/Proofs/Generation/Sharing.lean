import RestModel.Proofs.Build.Solid
import RestModel.Proofs.Generation.Accounts
import RestModel.Proofs.Generation.Agreement

/-! # Models with and without shared types

Types of components are shared or not, by the policy. Checks do not depend on it,
so neither does any failure. Which operations are kept does not depend on it either
where the schemas of a resource are settled. -/

namespace RestModel

/-- Two models of a resource have the same operations, bound to the same routes, and
methods of the same verbs and paths. -/
structure ResourceModel.OffersAlike (resource other : ResourceModel) : Prop where
  operations : resource.operations.map (fun operation => (operation.operation, operation.route)) =
    other.operations.map fun operation => (operation.operation, operation.route)
  methods : resource.extraMethods.map (fun method => (method.verb, method.path)) =
    other.extraMethods.map fun method => (method.verb, method.path)

namespace Generator

/-- The same generator, but for whether types of components are shared. -/
def sharing (generator : Generator) (aliasing : Bool) : Generator :=
  { generator with policy := { generator.policy with aliasComponents := aliasing } }

variable {generator : Generator}

private theorem check_sharing (generator : Generator) (aliasing : Bool) :
    (generator.sharing aliasing).checker.check = generator.checker.check :=
  rfl

private theorem checkAll_sharing (generator : Generator) (aliasing : Bool)
    (descriptors : List Descriptor) :
    (generator.sharing aliasing).checkAll descriptors = generator.checkAll descriptors := by
  induction descriptors with
  | nil => rfl
  | cons descriptor rest induction => simp only [checkAll, check_sharing, induction]

/-- The schemas of a route are settled. -/
def SettledAt (document : Document) (route : Route) : Prop :=
  ∀ part found, document.operationSchema route.verb route.path part = .ok (some found) →
    ∃ verdict, found.schema.Settled document.component? verdict

/-- The routes that the types of a resource may be made from. -/
def typeRoutes (descriptor : Descriptor) (support : Support) : List Route :=
  support.routes.map (·.2) ++
    (descriptor.requestUrl.toList ++ descriptor.responseUrl.toList).map
      (fun url => ⟨url.verb, url.path⟩) ++
    support.extraMethods.map fun method => ⟨method.verb, method.path⟩

/-- The schemas that the types of a resource may be made from are settled. -/
def IsSettled (generator : Generator) (descriptor : Descriptor) : Prop :=
  ∀ support, generator.checker.check descriptor = .ok support →
    ∀ route ∈ typeRoutes descriptor support, SettledAt generator.document route

/-- What speaks against something that was to be built. -/
def verdict : Except BuildError α → Option IssueReason
  | .ok _ => none
  | .error problem => some problem.reason

private theorem cases_of_verdict_eq {left right : Except BuildError α}
    (same : verdict left = verdict right) :
    (∃ value other, left = .ok value ∧ right = .ok other) ∨
      ∃ problem other, left = .error problem ∧ right = .error other ∧
        problem.reason = other.reason := by
  cases left with
  | ok value =>
      cases right with
      | ok other => exact .inl ⟨value, other, rfl, rfl⟩
      | error other => contradiction
  | error problem =>
      cases right with
      | ok other => contradiction
      | error other => exact .inr ⟨problem, other, rfl, rfl, Option.some.inj same⟩

/-- Whether a type can be built where the schemas are settled depends neither on its
name nor on what was built before, nor on whether types are shared. -/
theorem buildType_verdict (source : TypeSource)
    (settled : SettledAt generator.document source.route) :
    ∃ expected, ∀ aliasing name role state,
      verdict ((generator.sharing aliasing).buildType name role source state).1 = expected := by
  by_cases isPresent : generator.isPresent source = true
  · rcases isPresent_eq_true_iff.mp isPresent with ⟨found, isFound⟩
    rcases settled _ _ isFound with ⟨expected, isSettled⟩
    refine ⟨expected, fun aliasing name role state => ?_⟩
    have present : (generator.sharing aliasing).isPresent source = true := isPresent
    have enters : BuildLaw.Enters _ _ (generator.sharing aliasing).builder.context :=
      BuildLaw.context_lawful fun _ => BuildLaw.unrestricted_holds _
    have built := Build.ensures_model_of_settled enters isSettled (state.takeName name).1
      state.build
    have operation : (generator.sharing aliasing).builder.operation (state.takeName name).1
        source.route.verb source.route.path source.part =
          Build.model (generator.sharing aliasing).builder.context (state.takeName name).1
            found.schema :=
      operation_eq_model isFound _
    unfold Build.Ensures at built
    unfold buildType
    rw [if_pos present]
    dsimp only [GenerationState.takeName] at operation built ⊢
    rw [operation]
    split at built
    · next run =>
        rw [run]
        exact built.symm
    · next run =>
        rw [run]
        exact built.symm
  · refine ⟨none, fun aliasing name role state => ?_⟩
    have absent : ¬(generator.sharing aliasing).isPresent source = true := isPresent
    rw [buildType, if_neg absent]
    rfl

/-- Building a type from a settled source excludes the same with and without shared
types. -/
theorem buildOrDrop_agrees {source : Option TypeSource}
    (settled : ∀ one ∈ source, SettledAt generator.document one.route) {resource : String}
    {support other : Support} (agrees : support.Agrees resource other) (name : String)
    (role : TypeRole) (state otherState : GenerationState) :
    ((generator.sharing true).buildOrDrop resource name role source support
      state).support.Agrees resource
      ((generator.sharing false).buildOrDrop resource name role source other
        otherState).support := by
  cases source with
  | none => exact agrees
  | some source =>
      rcases buildType_verdict source (settled source rfl) with ⟨expected, same⟩
      have verdicts := (same true name role state).trans (same false name role otherState).symm
      unfold buildOrDrop
      dsimp only
      rcases run : (generator.sharing true).buildType name role source state with ⟨shared, after⟩
      rcases otherRun : (generator.sharing false).buildType name role source otherState with
        ⟨copied, last⟩
      rw [run, otherRun] at verdicts
      rcases cases_of_verdict_eq verdicts with ⟨_, _, rfl, rfl⟩ | ⟨_, _, rfl, rfl, sameReason⟩
      · exact agrees
      · exact excludeFailed_agrees agrees source sameReason

private theorem methodTypes_verdict {method : ExtraMethod}
    (settled : SettledAt generator.document ⟨method.verb, method.path⟩) :
    ∃ expected, ∀ aliasing resource state,
      verdict ((generator.sharing aliasing).methodTypes resource method state).1 = expected := by
  rcases buildType_verdict ⟨none, ⟨method.verb, method.path⟩, .request⟩ settled with
    ⟨request, requestSame⟩
  rcases buildType_verdict ⟨none, ⟨method.verb, method.path⟩, .response⟩ settled with
    ⟨response, responseSame⟩
  refine ⟨request <|> response, fun aliasing resource state => ?_⟩
  have requested := requestSame aliasing (methodStem resource method ++ "Request") .extraRequest
    state
  unfold methodTypes
  dsimp only
  split
  · next run =>
      rw [run] at requested
      rw [← requested]
      rfl
  · next type after run =>
      rw [run] at requested
      have answered := responseSame aliasing (methodStem resource method ++ "Response")
        .extraResponse after
      split
      · next otherRun =>
          rw [otherRun] at answered
          rw [← requested, ← answered]
          rfl
      · next otherRun =>
          rw [otherRun] at answered
          rw [← requested, ← answered]
          rfl

/-- The same methods are supported with and without shared types. -/
theorem supportedMethods_sharing (resource : String) {methods : List ExtraMethod}
    (settled : ∀ method ∈ methods, SettledAt generator.document ⟨method.verb, method.path⟩)
    (state other : GenerationState) :
    ((generator.sharing true).supportedMethods resource state methods).1.map
        (fun method => (method.verb, method.path)) =
      ((generator.sharing false).supportedMethods resource other methods).1.map
        fun method => (method.verb, method.path) := by
  induction methods generalizing state other with
  | nil => rfl
  | cons method rest induction =>
      have others := induction fun other member => settled other (List.mem_cons_of_mem _ member)
      rcases methodTypes_verdict (settled method List.mem_cons_self) with ⟨expected, same⟩
      have verdicts := (same true resource state).trans (same false resource other).symm
      rcases run : (generator.sharing true).methodTypes resource method state with
        ⟨shared, after⟩
      rcases otherRun : (generator.sharing false).methodTypes resource method other with
        ⟨copied, last⟩
      rw [run, otherRun] at verdicts
      rcases cases_of_verdict_eq verdicts with ⟨_, _, rfl, rfl⟩ | ⟨_, _, rfl, rfl, _⟩
      · rw [supportedMethods_of_ok run, supportedMethods_of_ok otherRun]
        exact congrArg ((method.verb, method.path) :: ·) (others _ _)
      · rw [supportedMethods_of_error run, supportedMethods_of_error otherRun]
        exact others _ _

/-! ## Resources -/

/-- A type of a resource is made from one of its routes, or from an override. -/
theorem mem_typeRoutes_of_overrideOrFirst {descriptor : Descriptor} {support : Support}
    {url? : Option RouteOverride} {part : Part} {candidates : List (Operation × Part)}
    {source : TypeSource}
    (overrides : url?.toList ⊆ descriptor.requestUrl.toList ++ descriptor.responseUrl.toList)
    (isSource : overrideOrFirst url? part support candidates = some source) :
    source.route ∈ typeRoutes descriptor support := by
  apply List.mem_append_left
  rcases cases_of_overrideOrFirst isSource with
    ⟨url, rfl, rfl⟩ | ⟨-, candidate, -, route, bound, rfl⟩
  · have isOverride : url ∈ descriptor.requestUrl.toList ++ descriptor.responseUrl.toList :=
      overrides (List.mem_singleton.mpr rfl)
    exact List.mem_append_right _ (List.mem_map_of_mem isOverride)
  · rcases Option.map_eq_some_iff.mp bound with ⟨entry, found, rfl⟩
    exact List.mem_append_left _ (List.mem_map_of_mem (List.mem_of_find?_eq_some found))

private theorem typeRoutes_subset {descriptor : Descriptor} {support before : Support}
    (routes : support.routes ⊆ before.routes)
    (extraMethods : support.extraMethods = before.extraMethods) :
    typeRoutes descriptor support ⊆ typeRoutes descriptor before := by
  unfold typeRoutes
  rw [extraMethods]
  intro route member
  rcases List.mem_append.mp member with member | member
  · rcases List.mem_append.mp member with member | member
    · exact List.mem_append_left _ (List.mem_append_left _ (List.map_subset _ routes member))
    · exact List.mem_append_left _ (List.mem_append_right _ member)
  · exact List.mem_append_right _ member

/-- A resource whose schemas are settled offers the same with and without shared types,
whatever was generated before. -/
theorem buildResource_offersAlike {descriptor : Descriptor} {support : Support}
    (settled : ∀ route ∈ typeRoutes descriptor support, SettledAt generator.document route)
    (state other : GenerationState) :
    ((generator.sharing true).buildResource descriptor support state).1.OffersAlike
      ((generator.sharing false).buildResource descriptor support other).1 := by
  let shared := generator.sharing true
  let copied := generator.sharing false
  let response := shared.responseType descriptor support state
  let otherResponse := copied.responseType descriptor support other
  let request := shared.requestType descriptor response
  let otherRequest := copied.requestType descriptor otherResponse
  have answered : response.support.Agrees descriptor.name otherResponse.support :=
    buildOrDrop_agrees
      (fun source isSource => settled _
        (mem_typeRoutes_of_overrideOrFirst (List.subset_append_right _ _) isSource))
      (.refl support) _ _ _ _
  have fewer : typeRoutes descriptor response.support ⊆ typeRoutes descriptor support :=
    typeRoutes_subset (routes_buildOrDrop_subset _ _ _ _ _ _ _)
      (excludes_buildOrDrop _ _ _ _ _ _).extraMethods
  have requested : request.support.Agrees descriptor.name otherRequest.support := by
    have sources : requestSource descriptor response.support =
        requestSource descriptor otherResponse.support := overrideOrFirst_eq answered _ _ _
    change (shared.buildOrDrop _ _ _ (requestSource descriptor response.support) _ _).support.Agrees
      descriptor.name (copied.buildOrDrop _ _ _ (requestSource descriptor otherResponse.support)
        _ _).support
    rw [← sources]
    exact buildOrDrop_agrees
      (fun source isSource => settled _ (fewer
        (mem_typeRoutes_of_overrideOrFirst (List.subset_append_left _ _) isSource)))
      answered _ _ _ _
  have kept : request.support.extraMethods = support.extraMethods :=
    (excludes_requestType _ _ _ _).extraMethods
  have otherKept : otherRequest.support.extraMethods = support.extraMethods :=
    (excludes_requestType _ _ _ _).extraMethods
  constructor
  · change (request.support.routes.map _).map _ = (otherRequest.support.routes.map _).map _
    rw [List.map_map, List.map_map, requested.routes]
    rfl
  · change (shared.supportedMethods _ _ request.support.extraMethods).1.map _ =
      (copied.supportedMethods _ _ otherRequest.support.extraMethods).1.map _
    rw [kept, otherKept]
    apply supportedMethods_sharing
    intro method member
    exact settled _ (List.mem_append_right _ (List.mem_map_of_mem member))

private theorem buildAll_offersAlike {checked : List (Descriptor × Support)}
    (passed : ∀ entry ∈ checked, generator.checker.check entry.1 = .ok entry.2)
    (state other : GenerationState) :
    List.Forall₂ (fun descriptor pair =>
        generator.IsSettled descriptor → ResourceModel.OffersAlike pair.1 pair.2)
      (checked.map (·.1))
      (((generator.sharing true).buildAll state checked).1.zip
        ((generator.sharing false).buildAll other checked).1) := by
  induction checked generalizing state other with
  | nil => exact .nil
  | cons first rest induction =>
      refine .cons ?_ (induction (fun entry member => passed entry (List.mem_cons_of_mem _ member))
        _ _)
      intro settled
      exact buildResource_offersAlike (settled _ (passed first List.mem_cons_self)) _ _

private theorem names_buildAll (generator : Generator) (checked : List (Descriptor × Support))
    (state : GenerationState) :
    (generator.buildAll state checked).1.map (·.name) = checked.map (·.1.name) := by
  induction checked generalizing state with
  | nil => rfl
  | cons first rest induction => exact congrArg (first.1.name :: ·) (induction _)

/-- With and without shared types, generating fails alike, or else there are models of the
same resources, and each resource whose schemas are settled offers the same operations and
methods. -/
theorem generate_sharing (generator : Generator) (descriptors : List (String × Descriptor)) :
    match (generator.sharing true).generate descriptors,
      (generator.sharing false).generate descriptors with
    | .error failure, .error other => failure = other
    | .ok shared, .ok copied =>
        shared.resources.map (·.name) = copied.resources.map (·.name) ∧
          List.Forall₂ (fun descriptor pair =>
              generator.IsSettled descriptor → ResourceModel.OffersAlike pair.1 pair.2)
            (inOrder descriptors) (shared.resources.zip copied.resources)
    | _, _ => False := by
  unfold generate
  rw [checkAll_sharing, checkAll_sharing]
  cases isOk : generator.checkAll (inOrder descriptors) with
  | error failure => rfl
  | ok checked =>
      rcases checkAll_eq_ok isOk with ⟨listed, passed⟩
      rw [← listed]
      refine ⟨?_, buildAll_offersAlike passed .empty .empty⟩
      exact (names_buildAll _ checked _).trans (names_buildAll _ checked _).symm

end Generator

/-! ## A service of folders -/

/-- A service whose folders have an owner, whose home is written as given. -/
def folderService (home : Json) : Document where
  title := "Folders"
  paths := [("/folders/\x7bid\x7d", [(.get, ⟨none, none, none,
    jsonAnswer (.object [("$ref", .string "#/components/schemas/Folder")])⟩)])]
  components :=
    [("Folder", .object [("properties", .object
        [("owner", .object [("$ref", .string "#/components/schemas/Person")])])]),
      ("Person", .object [("properties", .object [("home", home)])])]
  sharedRequests := []
  sharedResponses := []
  listWrapperKeys := []

/-- Folders can be read. -/
def folderDescriptor : Descriptor :=
  { Descriptor.empty "Folder" with operationSet := some (.of [.read] "/folders" "folders") }

/-- A reference to folders. -/
def folderReference : Json := .object [("$ref", .string "#/components/schemas/Folder")]

namespace Generator

/-- Homes are folders. -/
def folders : Generator := ⟨folderService folderReference, .standard⟩

private theorem settledAt_folders : SettledAt folders.document ⟨.get, "/folders/\x7bid\x7d"⟩ := by
  intro part found isFound
  have solid : (folders.document.operationSchema .get "/folders/\x7bid\x7d" part).toOption.join.all
      (fun found => decide found.schema.Solid) = true := by cases part <;> decide +kernel
  rw [isFound] at solid
  exact ⟨none, .solid (of_decide_eq_true solid)⟩

private theorem isSettled_folders : folders.IsSettled folderDescriptor := by
  intro support isOk route member
  have routes : (folders.checker.check folderDescriptor).toOption.map
      (typeRoutes folderDescriptor) = some [⟨.get, "/folders/\x7bid\x7d"⟩] := by decide +kernel
  rw [isOk] at routes
  rw [Option.some.inj routes] at member
  rw [List.mem_singleton.mp member]
  exact settledAt_folders

/-- The operations of each resource of a model. -/
def offered (generated : Except Failure ClientModel) : Option (List (List Operation)) :=
  generated.toOption.map fun model => model.resources.map fun resource =>
    resource.operations.map (·.operation)

/-- A folder is read with and without shared types. -/
theorem generate_sharing_folders :
    folders.IsSettled folderDescriptor ∧
      ∃ shared copied,
        (folders.sharing true).generate [("Folder", folderDescriptor)] = .ok shared ∧
        (folders.sharing false).generate [("Folder", folderDescriptor)] = .ok copied ∧
        shared.resources.map (·.operations.map (·.operation)) = [[.read]] ∧
        ∀ pair ∈ shared.resources.zip copied.resources,
          ResourceModel.OffersAlike pair.1 pair.2 := by
  have listed : inOrder [("Folder", folderDescriptor)] = [folderDescriptor] :=
    List.mergeSort_singleton _
  have offers : offered ((folders.sharing true).generate [("Folder", folderDescriptor)]) =
      some [[.read]] := by decide +kernel
  have alike := generate_sharing folders [("Folder", folderDescriptor)]
  refine ⟨isSettled_folders, ?_⟩
  split at alike
  · next sharedFails _ =>
      rw [sharedFails] at offers
      contradiction
  · next shared copied sharedRun copiedRun =>
      rw [sharedRun] at offers
      refine ⟨shared, copied, sharedRun, copiedRun, Option.some.inj offers, ?_⟩
      intro pair member
      rw [listed] at alike
      rcases List.forall₂_cons_left_iff.mp alike.2 with ⟨only, rest, offersAlike, others, isZip⟩
      rw [List.forall₂_nil_left_iff.mp others] at isZip
      rw [isZip] at member
      rw [List.mem_singleton.mp member]
      exact offersAlike isSettled_folders
  · contradiction

/-- A composition around a folder within itself hides that it is one, unless the owner's
type is shared: without shared types, folders have nothing to offer. -/
theorem generate_sharing_composition :
    let folders : Generator := ⟨folderService (.object [("allOf", .array [folderReference])]),
      .standard⟩
    offered ((folders.sharing true).generate [("Folder", folderDescriptor)]) = some [[.read]] ∧
      offered ((folders.sharing false).generate [("Folder", folderDescriptor)]) = some [[]] := by
  decide +kernel

end Generator
end RestModel
