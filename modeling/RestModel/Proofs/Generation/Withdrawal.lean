import Mathlib.Data.List.Forall2
import RestModel.Proofs.Build.Plain
import RestModel.Proofs.Generation.Accounts
import RestModel.Proofs.Generation.Agreement
import RestModel.Proofs.Support.Without

/-! # What an excluded method leaves behind

A method that is excluded has been declared in vain: without it, the same model is
generated, but for issues. This holds of methods that fail their check. Of methods
that fail to build it holds if their request leaves no types behind, and if nobody
asks for the names that their types were given. -/

namespace RestModel

/-- A resource offers a method. -/
def ClientModel.Offers (model : ClientModel) (resource : String) (method : ExtraMethod) : Prop :=
  ∃ offering ∈ model.resources, offering.name = resource ∧
    ∃ offered ∈ offering.extraMethods, offered.verb = method.verb ∧ offered.path = method.path

def ResourceModel.withoutIssues (resource : ResourceModel) : ResourceModel :=
  { resource with issues := [] }

private theorem ResourceModel.withoutIssues_eq {resource other : ResourceModel}
    (name : resource.name = other.name) (path : resource.path = other.path)
    (operations : resource.operations = other.operations)
    (extraMethods : resource.extraMethods = other.extraMethods)
    (types : resource.types = other.types) (requestUrl : resource.requestUrl = other.requestUrl)
    (responseUrl : resource.responseUrl = other.responseUrl) :
    resource.withoutIssues = other.withoutIssues := by
  cases resource
  cases other
  simp_all [withoutIssues]

/-- A model without the issues of its resources. -/
def ClientModel.withoutIssues (model : ClientModel) : ClientModel :=
  { model with resources := model.resources.map (·.withoutIssues) }

namespace Generator

open GenerationState

variable {generator : Generator} {stray : String → Prop} {state other : GenerationState}

/-! ## Methods that fail to build -/

/-- Building the request of a route leaves no types behind, nor mentions of components. -/
def LeavesNothing (generator : Generator) (route : Route) : Prop :=
  ∀ name state, (Build.stateAfter
    (generator.builder.operation name route.verb route.path .request) state).SameBuilt state

/-- A name that a type of a method may be given. -/
def MayName (resource : String) (method : ExtraMethod) (name : String) : Prop :=
  ∃ suffix ∈ ["Request", "Response"], ∃ index,
    name = Naming.candidate (methodStem resource method ++ suffix) index

private theorem not_mayName_of_length {resource name : String} {method : ExtraMethod}
    (short : name.length < (methodStem resource method).length) :
    ¬MayName resource method name := by
  rintro ⟨suffix, _, index, rfl⟩
  have long := Naming.length_le_candidate (methodStem resource method ++ suffix) index
  rw [String.length_append] at long
  omega

/-- The names that types of resources are given. -/
def takenNames (generator : Generator) (descriptors : List (String × Descriptor)) : List String :=
  match generator.checkAll (inOrder descriptors) with
  | .error _ => []
  | .ok checked => (generator.buildAll .empty checked).2.names

private theorem buildType_error_sameBuilt {name : String} {role : TypeRole} {source : TypeSource}
    {problem : BuildError} {after : GenerationState}
    (run : generator.buildType name role source state = (.error problem, after)) :
    after.build.SameBuilt state.build := by
  unfold buildType at run
  split at run
  · have grows := generator.builder.build_grows (.operation (state.takeName name).1
      source.route.verb source.route.path source.part) state.build
    unfold Build.Ensures at grows
    dsimp only [Builder.build, GenerationState.takeName] at run grows
    split at run
    · cases run
    · next failed =>
        rw [failed] at grows
        cases run
        exact ⟨grows.types, grows.mentions, grows.building⟩
  · cases run

private theorem buildType_request_sameBuilt {name : String} {role : TypeRole} {source : TypeSource}
    (leaves : generator.LeavesNothing source.route) (isRequest : source.part = .request)
    (state : GenerationState) :
    (generator.buildType name role source state).2.build.SameBuilt state.build := by
  unfold buildType
  split
  · have left := leaves (state.takeName name).1 state.build
    unfold Build.stateAfter at left
    dsimp only [GenerationState.takeName] at left ⊢
    rw [isRequest]
    split at left <;> next run => rw [run]; exact left
  · exact .refl _

/-- A type whose name is stray makes no difference if building it leaves nothing. -/
theorem buildType_agrees {name : String} (role : TypeRole) (source : TypeSource)
    (agrees : state.Agrees stray other) (isStray : ∀ index, stray (Naming.candidate name index))
    (same : (generator.buildType name role source state).2.build.SameBuilt state.build) :
    (generator.buildType name role source state).2.Agrees stray other := by
  refine ⟨same.trans agrees.build, ?_⟩
  intro text notStray
  rw [generator.names_buildType name role source state, ← agrees.names text notStray]
  split
  · rcases state.takeName_candidate name with ⟨index, chosen⟩
    rw [mem_takeName, chosen]
    constructor
    · rintro (rfl | taken)
      · exact absurd (isStray index) notStray
      · exact taken
    · exact .inr
  · exact Iff.rfl

/-- A method makes no difference to a state that it fails to be built in. -/
def FailsHarmlessly (generator : Generator) (stray : String → Prop) (resource : String)
    (method : ExtraMethod) : Prop :=
  ∀ state other problem after, state.Agrees stray other →
    generator.methodTypes resource method state = (.error problem, after) →
    after.Agrees stray other

/-- A method fails harmlessly if its request leaves nothing. -/
theorem failsHarmlessly_of_leavesNothing (resource : String) {method : ExtraMethod}
    (leaves : generator.LeavesNothing ⟨method.verb, method.path⟩) :
    generator.FailsHarmlessly (MayName resource method) resource method := by
  intro state other problem after agrees run
  have isStray : ∀ suffix ∈ ["Request", "Response"], ∀ index, MayName resource method
      (Naming.candidate (methodStem resource method ++ suffix) index) :=
    fun suffix member index => ⟨suffix, member, index, rfl⟩
  unfold methodTypes at run
  dsimp only at run
  have requested := buildType_agrees .extraRequest ⟨none, ⟨method.verb, method.path⟩, .request⟩
    agrees (isStray "Request" (by decide)) (buildType_request_sameBuilt leaves rfl state)
  split at run
  · next requestRun =>
      cases run
      rwa [requestRun] at requested
  · next middle requestRun =>
      rw [requestRun] at requested
      split at run
      · next responseRun =>
          cases run
          have same := buildType_error_sameBuilt responseRun
          have answered := buildType_agrees .extraResponse
            ⟨none, ⟨method.verb, method.path⟩, .response⟩ requested
            (isStray "Response" (by decide)) (by rwa [responseRun])
          rwa [responseRun] at answered
      · cases run

/-- A flat request leaves nothing, and neither does one that is not declared. -/
theorem leavesNothing_of_flat {route : Route}
    (flat : ∀ found, generator.document.operationSchema route.verb route.path .request =
      .ok (some found) → found.schema.Flat generator.builder.context) :
    generator.LeavesNothing route := by
  intro name state
  apply Build.Idle.sameBuilt
  unfold Builder.operation
  split
  · next found isFound => exact Build.idle_model (flat found isFound) name
  · exact Build.idle_throw _

/-- Without methods that fail to build and make no difference, the same methods are
supported, by the same types. -/
theorem supportedMethods_filter {resource : String} (kept : ExtraMethod → Bool)
    {methods : List ExtraMethod} (agrees : state.Agrees stray other)
    (excluded : ∀ method ∈ methods, kept method = false →
      ∀ model ∈ (generator.supportedMethods resource state methods).1,
        ¬(model.verb = method.verb ∧ model.path = method.path))
    (fails : ∀ method ∈ methods, kept method = false →
      generator.FailsHarmlessly stray resource method)
    (clean : (generator.supportedMethods resource other (methods.filter kept)).2.2.2.IsClean
      stray) :
    let run := generator.supportedMethods resource state methods
    let fewer := generator.supportedMethods resource other (methods.filter kept)
    run.1 = fewer.1 ∧ run.2.1 = fewer.2.1 ∧ run.2.2.2.Agrees stray fewer.2.2.2 := by
  induction methods generalizing state other with
  | nil => exact ⟨rfl, rfl, agrees⟩
  | cons method rest induction =>
      -- What the other methods come to after the first one.
      have others {after otherAfter : GenerationState} (alike : after.Agrees stray otherAfter)
          (later : (generator.supportedMethods resource after rest).1 ⊆
            (generator.supportedMethods resource state (method :: rest)).1) :=
        induction alike (fun other member notKept model isModel =>
          excluded other (List.mem_cons_of_mem method member) notKept model (later isModel))
          fun other member => fails other (List.mem_cons_of_mem method member)
      by_cases isKept : kept method = true
      · rw [List.filter_cons_of_pos isKept] at clean ⊢
        rcases otherRun : generator.methodTypes resource method other with ⟨outcome, otherAfter⟩
        have names := generator.names_subset_supportedMethods resource (rest.filter kept) otherAfter
        cases outcome with
        | error problem =>
            rw [supportedMethods_of_error otherRun] at clean ⊢
            rcases methodTypes_follows agrees otherRun (clean.of_subset names) with
              ⟨after, run, alike⟩
            rw [supportedMethods_of_error run] at others ⊢
            exact others alike (List.Subset.refl _) clean
        | ok types =>
            rcases types with ⟨request, response⟩
            rw [supportedMethods_of_ok otherRun] at clean ⊢
            rcases methodTypes_follows agrees otherRun (clean.of_subset names) with
              ⟨after, run, alike⟩
            rw [supportedMethods_of_ok run] at others ⊢
            rcases others alike (List.subset_cons_self _ _) clean with ⟨models, types, last⟩
            exact ⟨congrArg (_ :: ·) models, congrArg (_ ++ ·) types, last⟩
      · rw [List.filter_cons_of_neg isKept] at clean ⊢
        have notKept : kept method = false := by simpa using isKept
        rcases run : generator.methodTypes resource method state with ⟨outcome, after⟩
        cases outcome with
        | error problem =>
            have alike := fails method List.mem_cons_self notKept _ _ _ _ agrees run
            rw [supportedMethods_of_error run] at others ⊢
            exact others alike (List.Subset.refl _) clean
        | ok types =>
            -- A method that builds is supported, and so not excluded.
            have supported := excluded method List.mem_cons_self notKept
            rw [supportedMethods_of_ok run] at supported
            exact absurd ⟨rfl, rfl⟩ (supported _ List.mem_cons_self)

/-! ## Resources -/

/-- Without a method that is excluded and fails harmlessly, the model of a resource is the
same but for issues. -/
theorem buildResource_without {resource : String} {method : ExtraMethod}
    {checked less : Descriptor × Support}
    (isWithout : Checker.IsWithout resource method checked less)
    (agrees : state.Agrees stray other)
    (excluded : checked.1.name = resource →
      ∀ model ∈ (generator.buildResource checked.1 checked.2 state).1.extraMethods,
        ¬(model.verb = method.verb ∧ model.path = method.path))
    (fails : ∀ declared ∈ checked.2.extraMethods, declared.sameRoute method = true →
      generator.FailsHarmlessly stray resource declared)
    (clean : (generator.buildResource less.1 less.2 other).2.IsClean stray) :
    (generator.buildResource checked.1 checked.2 state).1.withoutIssues =
        (generator.buildResource less.1 less.2 other).1.withoutIssues ∧
      (generator.buildResource checked.1 checked.2 state).2.Agrees stray
        (generator.buildResource less.1 less.2 other).2 := by
  rcases checked with ⟨descriptor, support⟩
  rcases less with ⟨_, otherSupport⟩
  rcases isWithout with ⟨rfl, supports, fewer⟩
  dsimp only at supports fewer excluded fails clean ⊢
  let response := generator.responseType descriptor support state
  let otherResponse := generator.responseType (descriptor.without resource method) otherSupport
    other
  let request := generator.requestType descriptor response
  let otherRequest := generator.requestType (descriptor.without resource method) otherResponse
  let search := generator.searchParams descriptor.name request.support request.state
  let otherSearch := generator.searchParams descriptor.name otherRequest.support
    otherRequest.state
  let methods := generator.supportedMethods descriptor.name search.2 request.support.extraMethods
  let otherMethods := generator.supportedMethods descriptor.name otherSearch.2
    otherRequest.support.extraMethods
  -- No stray name is ever taken, since none is taken at the end.
  have searchClean : otherSearch.2.IsClean stray :=
    clean.of_subset (names_subset_supportedMethods _ _ _ _)
  have requestClean : otherRequest.state.IsClean stray :=
    searchClean.of_subset (names_subset_searchParams _ _ _ _)
  have responseClean : otherResponse.state.IsClean stray :=
    requestClean.of_subset (names_subset_buildOrDrop _ _ _ _ _ _ _)
  have answered : response.Agrees stray descriptor.name otherResponse := by
    have sources : responseSource descriptor support = responseSource descriptor otherSupport :=
      overrideOrFirst_eq supports _ _ _
    change (generator.buildOrDrop _ _ _ (responseSource descriptor support) _ _).Agrees stray _ _
    rw [sources]
    exact buildOrDrop_follows supports agrees responseClean
  have requested : request.Agrees stray descriptor.name otherRequest := by
    have sources : requestSource descriptor response.support =
        requestSource descriptor otherResponse.support := overrideOrFirst_eq answered.support _ _ _
    change (generator.buildOrDrop _ _ _ (requestSource descriptor response.support) _ _).Agrees
      stray _ _
    rw [sources]
    exact buildOrDrop_follows answered.support answered.state requestClean
  have searched : search.1 = otherSearch.1 ∧ search.2.Agrees stray otherSearch.2 := by
    rcases searchParams_follows requested.support requested.state
      (rfl : _ = (otherSearch.1, otherSearch.2)) searchClean with ⟨before, run, alike⟩
    have isSearch : search = (otherSearch.1, before) := run
    exact isSearch ▸ ⟨rfl, alike⟩
  have allMethods : request.support.extraMethods = support.extraMethods :=
    (excludes_requestType _ _ _ _).extraMethods
  have methodsLeft : otherRequest.support.extraMethods =
      request.support.extraMethods.filter (descriptor.keeps resource method) := by
    have others : otherRequest.support.extraMethods = otherSupport.extraMethods :=
      (excludes_requestType _ _ _ _).extraMethods
    rw [others, fewer, allMethods]
  have supported : methods.1 = otherMethods.1 ∧ methods.2.1 = otherMethods.2.1 ∧
      methods.2.2.2.Agrees stray otherMethods.2.2.2 := by
    have methodsClean : otherMethods.2.2.2.IsClean stray := clean
    unfold otherMethods at methodsClean ⊢
    rw [methodsLeft] at methodsClean ⊢
    apply supportedMethods_filter _ searched.2 _ _ methodsClean
    · intro declared _ notKept model isModel
      rcases Descriptor.keeps_eq_false_iff.mp notKept with ⟨ofResource, sameRoute⟩
      rcases ExtraMethod.sameRoute_eq_true_iff.mp sameRoute with ⟨verb, path⟩
      rw [verb, path]
      exact excluded ofResource model isModel
    · intro declared member notKept
      rw [allMethods] at member
      rcases Descriptor.keeps_eq_false_iff.mp notKept with ⟨ofResource, sameRoute⟩
      rw [ofResource]
      exact fails declared member sameRoute
  rcases supported with ⟨sameMethods, sameTypes, last⟩
  refine ⟨ResourceModel.withoutIssues_eq rfl rfl ?_ ?_ ?_ rfl rfl, ?_⟩
  · change request.support.routes.map (generator.supportedOperation
      (request.value.map (·.name)) (response.value.map (·.name)) (search.1.map (·.name))) =
      otherRequest.support.routes.map (generator.supportedOperation
      (otherRequest.value.map (·.name)) (otherResponse.value.map (·.name))
      (otherSearch.1.map (·.name)))
    rw [requested.support.routes, requested.value, answered.value, searched.1]
  · exact sameMethods
  · change search.1.toList ++ request.value.toList ++ response.value.toList ++ methods.2.1 =
      otherSearch.1.toList ++ otherRequest.value.toList ++ otherResponse.value.toList ++
        otherMethods.2.1
    rw [searched.1, requested.value, answered.value, sameTypes]
  · exact ⟨last.build.takeOmitted, last.names⟩

private theorem buildAll_without {resource : String} {method : ExtraMethod}
    {checked less : List (Descriptor × Support)}
    (isWithout : List.Forall₂ (Checker.IsWithout resource method) checked less)
    (agrees : state.Agrees stray other)
    (excluded : ∀ model ∈ (generator.buildAll state checked).1, model.name = resource →
      ∀ offered ∈ model.extraMethods,
        ¬(offered.verb = method.verb ∧ offered.path = method.path))
    (fails : ∀ entry ∈ checked, ∀ declared ∈ entry.2.extraMethods,
      declared.sameRoute method = true → generator.FailsHarmlessly stray resource declared)
    (clean : (generator.buildAll other less).2.IsClean stray) :
    (generator.buildAll state checked).1.map (·.withoutIssues) =
        (generator.buildAll other less).1.map (·.withoutIssues) ∧
      (generator.buildAll state checked).2.Agrees stray (generator.buildAll other less).2 := by
  induction isWithout generalizing state other with
  | nil => exact ⟨rfl, agrees⟩
  | cons first _ induction =>
      have firstAlike := buildResource_without first agrees
        (fun ofResource => excluded _ List.mem_cons_self ofResource)
        (fails _ List.mem_cons_self)
        (clean.of_subset (names_subset_buildAll _ _ _))
      have restAlike := induction firstAlike.2
        (fun model member => excluded model (List.mem_cons_of_mem _ member))
        (fun entry member => fails entry (List.mem_cons_of_mem _ member)) clean
      exact ⟨congrArg₂ List.cons firstAlike.1 restAlike.1, restAlike.2⟩

/-! ## Models -/

theorem checkAll_without {descriptors : List Descriptor} {checked : List (Descriptor × Support)}
    (resource : String) (method : ExtraMethod)
    (isOk : generator.checkAll descriptors = .ok checked) :
    ∃ less, generator.checkAll (descriptors.map (·.without resource method)) = .ok less ∧
      List.Forall₂ (Checker.IsWithout resource method) checked less := by
  induction descriptors generalizing checked with
  | nil =>
      have none : checked = [] := (Except.ok.inj isOk).symm
      subst none
      exact ⟨[], rfl, .nil⟩
  | cons descriptor rest induction =>
      rcases checkAll_cons_eq_ok_iff.mp isOk with ⟨support, others, first, later, rfl⟩
      rcases Checker.check_without resource method first with ⟨other, otherFirst, isWithout⟩
      rcases induction later with ⟨less, lessLater, areWithout⟩
      refine ⟨(descriptor.without resource method, other) :: less, ?_, .cons isWithout areWithout⟩
      exact checkAll_cons_eq_ok_iff.mpr ⟨other, less, otherFirst, lessLater, rfl⟩

/-- Removing a method does not change the order of descriptors. -/
theorem inOrder_allWithout (descriptors : List (String × Descriptor)) (resource : String)
    (method : ExtraMethod) :
    inOrder (Descriptor.allWithout descriptors resource method) =
      (inOrder descriptors).map (·.without resource method) := by
  unfold inOrder
  have values : Keyed.values (Descriptor.allWithout descriptors resource method) =
      (Keyed.values descriptors).map (·.without resource method) := by
    unfold Keyed.values Descriptor.allWithout
    rw [List.map_map, List.map_map]
    rfl
  rw [values, List.map_mergeSort]
  intro left _ right _
  rfl

/-- Of a method that is excluded, nothing is left in a model but issues, if it fails its
check, or else if its request leaves nothing and nobody asks for the names of its types:
without the method, the same model is generated. -/
theorem generate_without {descriptors : List (String × Descriptor)} {model : ClientModel}
    {resource : String} {method : ExtraMethod}
    (generated : generator.generate descriptors = .ok model)
    (excluded : ¬model.Offers resource method)
    (harmless : (∃ rejection, generator.checker.checkExtraMethod method = .error rejection) ∨
      generator.LeavesNothing ⟨method.verb, method.path⟩ ∧
        ∀ name ∈ generator.takenNames (Descriptor.allWithout descriptors resource method),
          ¬MayName resource method name) :
    ∃ other, generator.generate (Descriptor.allWithout descriptors resource method) = .ok other ∧
      other.withoutIssues = model.withoutIssues := by
  rcases generate_eq_ok_iff.mp generated with ⟨checked, isOk, rfl⟩
  rcases checkAll_without resource method isOk with ⟨less, lessOk, isWithout⟩
  rw [← inOrder_allWithout] at lessOk
  have unsupported : ∀ model ∈ (generator.buildAll .empty checked).1, model.name = resource →
      ∀ offered ∈ model.extraMethods,
        ¬(offered.verb = method.verb ∧ offered.path = method.path) :=
    fun model isModel ofResource offered isOffered same =>
      excluded ⟨model, isModel, ofResource, offered, isOffered, same⟩
  -- Only names of a method that is tried to be built are stray.
  have stray : ∃ stray : String → Prop, (∀ entry ∈ checked, ∀ declared ∈ entry.2.extraMethods,
      declared.sameRoute method = true → generator.FailsHarmlessly stray resource declared) ∧
      (generator.buildAll .empty less).2.IsClean stray := by
    rcases harmless with ⟨rejection, rejected⟩ | ⟨leaves, unasked⟩
    · refine ⟨fun _ => False, ?_, fun _ _ => id⟩
      intro entry member declared isSupported sameRoute
      have passed := Checker.check_passed ((checkAll_eq_ok isOk).2 entry member) _ isSupported
      rw [Checker.checkExtraMethod_of_sameRoute sameRoute, rejected] at passed
      contradiction
    · refine ⟨MayName resource method, ?_, ?_⟩
      · intro entry member declared _ sameRoute
        rcases ExtraMethod.sameRoute_eq_true_iff.mp sameRoute with ⟨verb, path⟩
        have sameNames : MayName resource declared = MayName resource method := by
          unfold MayName methodStem
          rw [verb, path]
        rw [← verb, ← path] at leaves
        exact sameNames ▸ failsHarmlessly_of_leavesNothing resource leaves
      · unfold takenNames at unasked
        rw [lessOk] at unasked
        exact unasked
  rcases stray with ⟨stray, fails, clean⟩
  rcases buildAll_without isWithout (.refl .empty) unsupported fails clean with
    ⟨resources, alike⟩
  refine ⟨_, generate_eq_ok_iff.mpr ⟨less, lessOk, rfl⟩, ?_⟩
  unfold ClientModel.withoutIssues
  rw [resources, alike.build.types, alike.build.mentions]

/-! ## A service that packs folders -/

/-- A service whose folders can be packed, by a request as given, into anything. -/
def packService (request : Json) : Document where
  title := "Folders"
  paths :=
    let text : Json := .object [("type", .string "string")]
    let anything : Json := .object [("type", .string "object")]
    [("/folders/\x7bid\x7d", [(.get, ⟨none, none, none,
        jsonAnswer (.object [("properties", .object [("name", text)])])⟩)]),
      ("/folders/\x7bid\x7d/pack", [(.post, ⟨none, none,
        some (.inline [(jsonMediaType, some (.object [("properties", request)]))]),
        jsonAnswer (.object [("properties", .object [("blob", anything)])])⟩)])]
  components := []
  sharedRequests := []
  sharedResponses := []
  listWrapperKeys := []

/-- The method to pack a folder. -/
def pack : ExtraMethod := ⟨.post, "/folders/\x7bid\x7d/pack", none, "pack"⟩

/-- Folders can be read and packed. -/
def packDescriptor : Descriptor :=
  { Descriptor.empty "Folder" with
    operationSet := some (.of [.read] "/folders" "folders")
    extraMethods := [pack] }

/-- The names of methods and of shared types in a model. -/
def outline (generated : Except Failure ClientModel) : Option (List String × List String) :=
  generated.toOption.map fun model =>
    (model.resources.flatMap fun resource => resource.extraMethods.map (·.path),
      model.types.map (·.name))

/-- Folders are packed with or without force. -/
def packs : Generator :=
  ⟨packService (.object [("force", .object [("type", .string "boolean")])]), .standard⟩

private theorem leavesNothing_packs : packs.LeavesNothing ⟨pack.verb, pack.path⟩ := by
  apply leavesNothing_of_flat
  intro found isFound
  have flat : (packs.document.operationSchema pack.verb pack.path .request).toOption.join.all
      (fun found => decide (found.schema.Flat packs.builder.context)) = true := by decide +kernel
  rw [isFound] at flat
  exact of_decide_eq_true flat

/-- A folder is packed into anything, so packing is excluded after its request is built. -/
theorem generate_without_pack :
    ∃ model other, packs.generate [("Folder", packDescriptor)] = .ok model ∧
      ¬model.Offers "Folder" pack ∧ packs.LeavesNothing ⟨pack.verb, pack.path⟩ ∧
      packs.generate (Descriptor.allWithout [("Folder", packDescriptor)] "Folder" pack) =
        .ok other ∧
      other.withoutIssues = model.withoutIssues := by
  have outlined : outline (packs.generate [("Folder", packDescriptor)]) = some ([], []) := by
    decide +kernel
  have taken : packs.takenNames
      (Descriptor.allWithout [("Folder", packDescriptor)] "Folder" pack) = ["Folder"] := by
    decide +kernel
  have unasked : ∀ name ∈ packs.takenNames
      (Descriptor.allWithout [("Folder", packDescriptor)] "Folder" pack),
      ¬MayName "Folder" pack name := by
    rw [taken]
    intro name member
    rw [List.mem_singleton.mp member]
    exact not_mayName_of_length (by decide +kernel)
  cases generated : packs.generate [("Folder", packDescriptor)] with
  | error failure => simp [generated, outline, Except.toOption] at outlined
  | ok model =>
      have excluded : ¬model.Offers "Folder" pack := by
        rintro ⟨resource, isResource, _, offered, isOffered, _⟩
        rw [generated] at outlined
        have none := congrArg Prod.fst (Option.some.inj outlined)
        have unoffered := List.map_eq_nil_iff.mp
          (List.flatMap_eq_nil_iff.mp none resource isResource)
        rw [unoffered] at isOffered
        contradiction
      rcases generate_without generated excluded (.inr ⟨leavesNothing_packs, unasked⟩) with
        ⟨other, otherGenerated, same⟩
      exact ⟨model, other, rfl, excluded, leavesNothing_packs, otherGenerated, same⟩

/-- Of a request with a record in it, the type of the record is left, though the method is
excluded. -/
theorem generate_without_nested :
    let generator : Generator := ⟨packService (.object [("options", .object [("properties",
      .object [("force", .object [("type", .string "boolean")])])])]), .standard⟩
    outline (generator.generate [("Folder", packDescriptor)]) =
        some ([], ["FolderPostPackRequestOptions"]) ∧
      outline (generator.generate
        (Descriptor.allWithout [("Folder", packDescriptor)] "Folder" pack)) = some ([], []) := by
  decide +kernel

end Generator
end RestModel
