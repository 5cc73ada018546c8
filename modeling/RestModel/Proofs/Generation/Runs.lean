import Mathlib.Data.List.Perm.Subperm
import RestModel.Proofs.Generation.Checked

/-! # Runs of generating

The types of a model are made one after another, each because a resource asks for it,
so what every step preserves holds of whole runs. A resource lists its types in
another order than they are made in, and a type of a method that is left out is not
listed at all. -/

namespace RestModel

/-- A type that a resource asks for, by a name that it gets unless it is taken. -/
inductive TypeDemand where
  | build (stem : String) (role : TypeRole) (source : TypeSource)
  | search (stem : String)

namespace TypeDemand

def stem : TypeDemand → String
  | .build stem _ _ | .search stem => stem

def role : TypeDemand → TypeRole
  | .build _ role _ => role
  | .search _ => .searchParams

end TypeDemand

/-- What a resource asks for. Its requests are asked for after its answers are typed,
when it may have lost some of its routes. -/
inductive Descriptor.Asks (descriptor : Descriptor) (support : Support) : TypeDemand → Prop where
  | response {source : TypeSource} : Generator.responseSource descriptor support = some source →
      descriptor.Asks support (.build descriptor.name .responseModel source)
  | request {later : Support} {source : TypeSource} : later.routes ⊆ support.routes →
      Generator.requestSource descriptor later = some source →
      descriptor.Asks support (.build (descriptor.name ++ "Request") .requestBody source)
  | search : descriptor.Asks support (.search (descriptor.name ++ "SearchParams"))
  | methodRequest {method : ExtraMethod} : method ∈ support.extraMethods →
      descriptor.Asks support
        (.build (Generator.methodStem descriptor.name method ++ "Request") .extraRequest
          ⟨none, ⟨method.verb, method.path⟩, .request⟩)
  | methodResponse {method : ExtraMethod} : method ∈ support.extraMethods →
      descriptor.Asks support
        (.build (Generator.methodStem descriptor.name method ++ "Response") .extraResponse
          ⟨none, ⟨method.verb, method.path⟩, .response⟩)

namespace Generator

variable {generator : Generator} {asks : TypeDemand → Prop}

/-- All that building a type can come to. -/
inductive BuildsType (generator : Generator) (name : String) (role : TypeRole)
    (source : TypeSource) (state : GenerationState) :
    Except BuildError (Option ResourceType) → GenerationState → Prop where
  | absent : BuildsType generator name role source state (.ok none) state
  | built {body : TypeBody} {build : BuildState} :
      generator.builder.operation (state.takeName name).1 source.route.verb source.route.path
        source.part state.build = .ok body build →
      BuildsType generator name role source state
        (.ok (some ⟨(state.takeName name).1, role, source.label, body⟩))
        ⟨(state.takeName name).2.names, build⟩
  | failed {problem : BuildError} {build : BuildState} :
      generator.builder.operation (state.takeName name).1 source.route.verb source.route.path
        source.part state.build = .error problem build →
      BuildsType generator name role source state (.error problem)
        ⟨(state.takeName name).2.names, build⟩

theorem buildsType (generator : Generator) (name : String) (role : TypeRole)
    (source : TypeSource) (state : GenerationState) :
    generator.BuildsType name role source state
      (generator.buildType name role source state).1
      (generator.buildType name role source state).2 := by
  unfold buildType
  split
  · dsimp only
    split
    · next built => exact .built built
    · next failed => exact .failed failed
  · exact .absent

/-- The type that a build came to, if it came to one. -/
def builtType? : Except BuildError (Option ResourceType) → Option ResourceType
  | .ok type? => type?
  | .error _ => none

/-- A step makes no type or one that is asked for. -/
inductive Step (generator : Generator) (asks : TypeDemand → Prop) :
    GenerationState → List ResourceType → GenerationState → Prop where
  | build {stem : String} {role : TypeRole} {source : TypeSource}
      {outcome : Except BuildError (Option ResourceType)} {state after : GenerationState} :
      asks (.build stem role source) → generator.BuildsType stem role source state outcome after →
      Step generator asks state (builtType? outcome).toList after
  | search {stem : String} (schema : Schema) (state : GenerationState) :
      asks (.search stem) → Step generator asks state
        [⟨(state.takeName stem).1, .searchParams, Operation.list.name,
          .fields ⟨searchFields schema, none⟩⟩]
        (state.takeName stem).2
  | takeOmitted (state : GenerationState) :
      Step generator asks state [] { state with build := state.build.takeOmitted.2 }

/-- Types are made in any number of steps. Not all of them need to be listed. -/
inductive Runs (generator : Generator) (asks : TypeDemand → Prop) :
    GenerationState → List ResourceType → GenerationState → Prop where
  | refl (state : GenerationState) : Runs generator asks state [] state
  | tail {before state after : GenerationState} {types made : List ResourceType} :
      Runs generator asks before types state → Step generator asks state made after →
      Runs generator asks before (types ++ made) after
  | select {before after : GenerationState} {types others : List ResourceType} :
      Runs generator asks before types after → others.Subperm types →
      Runs generator asks before others after

namespace Runs

theorem single {before after : GenerationState} {types : List ResourceType}
    (step : generator.Step asks before types after) : generator.Runs asks before types after :=
  .tail (.refl before) step

theorem trans {first second third : GenerationState} {earlier later : List ResourceType}
    (left : generator.Runs asks first earlier second)
    (right : generator.Runs asks second later third) :
    generator.Runs asks first (earlier ++ later) third := by
  induction right with
  | refl => rwa [List.append_nil]
  | tail _ step induction =>
      rw [← List.append_assoc]
      exact .tail induction step
  | select _ selected induction =>
      exact .select induction ((List.subperm_append_left earlier).mpr selected)

theorem mono {other : TypeDemand → Prop} {before after : GenerationState}
    {types : List ResourceType} (implies : ∀ demand, asks demand → other demand)
    (runs : generator.Runs asks before types after) : generator.Runs other before types after := by
  induction runs with
  | refl => exact .refl _
  | tail _ step induction =>
      apply induction.tail
      cases step with
      | build isAsked built => exact .build (implies _ isAsked) built
      | search schema _ isAsked => exact .search schema _ (implies _ isAsked)
      | takeOmitted => exact .takeOmitted _
  | select _ selected induction => exact induction.select selected

end Runs

/-! ## Methods one by one -/

section Methods

variable {resource : String} {method : ExtraMethod} {rest : List ExtraMethod}
  {state after : GenerationState}

theorem supportedMethods_of_error {problem : BuildError}
    (run : generator.methodTypes resource method state = (.error problem, after)) :
    generator.supportedMethods resource state (method :: rest) =
      let others := generator.supportedMethods resource after rest
      (others.1, others.2.1,
        ⟨resource, method.route, problem.reason, problem.message⟩ :: others.2.2.1,
        others.2.2.2) := by
  rw [supportedMethods, run]

theorem supportedMethods_of_ok {request response : Option ResourceType}
    (run : generator.methodTypes resource method state = (.ok (request, response), after)) :
    generator.supportedMethods resource state (method :: rest) =
      let others := generator.supportedMethods resource after rest
      (⟨method.verb, method.path, method.wait,
          generator.document.summary? method.verb method.path, request.map (·.name),
          response.map (·.name)⟩ :: others.1,
        request.toList ++ response.toList ++ others.2.1, others.2.2.1, others.2.2.2) := by
  rw [supportedMethods, run]

end Methods

/-! ## What is generated is a run -/

theorem buildType_runs {stem : String} {role : TypeRole} {source : TypeSource}
    (isAsked : asks (.build stem role source)) {state after : GenerationState}
    {outcome : Except BuildError (Option ResourceType)}
    (run : generator.buildType stem role source state = (outcome, after)) :
    generator.Runs asks state (builtType? outcome).toList after := by
  have built := generator.buildsType stem role source state
  rw [run] at built
  exact .single (.build isAsked built)

theorem buildOrDrop_runs {resource name : String} {role : TypeRole} {source? : Option TypeSource}
    (areAsked : ∀ source, source? = some source → asks (.build name role source))
    (support : Support) (state : GenerationState) :
    generator.Runs asks state
      (generator.buildOrDrop resource name role source? support state).value.toList
      (generator.buildOrDrop resource name role source? support state).state := by
  unfold buildOrDrop
  split
  · exact .refl state
  · next source =>
      have isAsked := areAsked source rfl
      split
      · next run => exact buildType_runs isAsked run
      · next run => exact buildType_runs isAsked run

theorem searchParams_runs {resource : String}
    (isAsked : asks (.search (resource ++ "SearchParams"))) (support : Support)
    (state : GenerationState) :
    generator.Runs asks state (generator.searchParams resource support state).1.toList
      (generator.searchParams resource support state).2 := by
  unfold searchParams
  split
  · split
    · exact .refl state
    · split
      · dsimp only
        split
        · exact .refl state
        · exact .single (.search _ state isAsked)
      · exact .refl state
  · exact .refl state

private theorem methodTypes_runs {resource : String} {method : ExtraMethod}
    (requestAsked : asks (.build (methodStem resource method ++ "Request") .extraRequest
      ⟨none, ⟨method.verb, method.path⟩, .request⟩))
    (responseAsked : asks (.build (methodStem resource method ++ "Response") .extraResponse
      ⟨none, ⟨method.verb, method.path⟩, .response⟩))
    {state after : GenerationState}
    {outcome : Except BuildError (Option ResourceType × Option ResourceType)}
    (run : generator.methodTypes resource method state = (outcome, after)) :
    ∃ types, generator.Runs asks state types after ∧
      ∀ request response, outcome = .ok (request, response) →
        types = request.toList ++ response.toList := by
  unfold methodTypes at run
  dsimp only at run
  split at run
  · next requestRun =>
      cases run
      exact ⟨_, buildType_runs requestAsked requestRun, nofun⟩
  · next request middle requestRun =>
      have requested := buildType_runs requestAsked requestRun
      split at run
      · next responseRun =>
          cases run
          exact ⟨_, requested.trans (buildType_runs responseAsked responseRun), nofun⟩
      · next response last responseRun =>
          cases run
          refine ⟨_, requested.trans (buildType_runs responseAsked responseRun), ?_⟩
          rintro _ _ ⟨⟩
          rfl

theorem supportedMethods_runs {resource : String} {methods : List ExtraMethod}
    (requestsAsked : ∀ method ∈ methods, asks (.build (methodStem resource method ++ "Request")
      .extraRequest ⟨none, ⟨method.verb, method.path⟩, .request⟩))
    (responsesAsked : ∀ method ∈ methods, asks (.build (methodStem resource method ++ "Response")
      .extraResponse ⟨none, ⟨method.verb, method.path⟩, .response⟩))
    (state : GenerationState) :
    generator.Runs asks state (generator.supportedMethods resource state methods).2.1
      (generator.supportedMethods resource state methods).2.2.2 := by
  induction methods generalizing state with
  | nil => exact .refl state
  | cons method rest induction =>
      have others := induction (fun other member => requestsAsked other (.tail _ member))
        fun other member => responsesAsked other (.tail _ member)
      rcases run : generator.methodTypes resource method state with ⟨outcome, after⟩
      rcases methodTypes_runs (requestsAsked method List.mem_cons_self)
        (responsesAsked method List.mem_cons_self) run with ⟨types, runs, listed⟩
      cases outcome with
      | error problem =>
          -- A request that was built before the answer failed is not listed.
          rw [supportedMethods_of_error run]
          exact (runs.select List.nil_subperm).trans (others after)
      | ok built =>
          rw [supportedMethods_of_ok run]
          have both := runs.trans (others after)
          rwa [listed _ _ rfl] at both

/-- The types of a resource are what it asks for. -/
theorem buildResource_runs (generator : Generator) (descriptor : Descriptor) (support : Support)
    (state : GenerationState) :
    generator.Runs (descriptor.Asks support) state
      (generator.buildResource descriptor support state).1.types
      (generator.buildResource descriptor support state).2 := by
  let response := generator.responseType descriptor support state
  let request := generator.requestType descriptor response
  let search := generator.searchParams descriptor.name request.support request.state
  let methods := generator.supportedMethods descriptor.name search.2 request.support.extraMethods
  have kept : request.support.extraMethods = support.extraMethods :=
    (excludes_requestType _ _ _ _).extraMethods
  have routes : response.support.routes ⊆ support.routes :=
    routes_buildOrDrop_subset _ _ _ _ _ _ _
  have responseRuns : generator.Runs (descriptor.Asks support) state response.value.toList
      response.state :=
    buildOrDrop_runs (fun _ isSource => .response isSource) _ _
  have requestRuns : generator.Runs (descriptor.Asks support) response.state
      request.value.toList request.state :=
    buildOrDrop_runs (fun _ isSource => .request routes isSource) _ _
  have searchRuns : generator.Runs (descriptor.Asks support) request.state search.1.toList
      search.2 :=
    searchParams_runs .search _ _
  have methodsRuns : generator.Runs (descriptor.Asks support) search.2 methods.2.1
      methods.2.2.2 :=
    supportedMethods_runs (fun _ member => .methodRequest (kept ▸ member))
      (fun _ member => .methodResponse (kept ▸ member)) _
  have runs := ((responseRuns.trans requestRuns).trans searchRuns).trans methodsRuns
  -- The types are made in another order than they are listed in.
  have listed : (search.1.toList ++ request.value.toList ++ response.value.toList ++
      methods.2.1).Perm (response.value.toList ++ request.value.toList ++ search.1.toList ++
        methods.2.1) := by
    apply List.Perm.append_right
    rw [List.append_assoc]
    exact List.perm_append_comm.trans (List.perm_append_comm.append_right _)
  have taken := (runs.select listed.subperm).tail (.takeOmitted _)
  rw [List.append_nil] at taken
  exact taken

theorem buildAll_runs {checked : List (Descriptor × Support)}
    (areAsked : ∀ entry ∈ checked, ∀ demand, entry.1.Asks entry.2 demand → asks demand)
    (state : GenerationState) :
    generator.Runs asks state ((generator.buildAll state checked).1.flatMap (·.types))
      (generator.buildAll state checked).2 := by
  induction checked generalizing state with
  | nil => exact .refl state
  | cons first rest induction =>
      have resource := generator.buildResource_runs first.1 first.2 state
      have others := induction fun entry member => areAsked entry (List.mem_cons_of_mem _ member)
      exact (resource.mono (areAsked first List.mem_cons_self)).trans (others _)

private theorem exists_of_mem_buildAll {checked : List (Descriptor × Support)}
    {state : GenerationState}
    {resource : ResourceModel} (member : resource ∈ (generator.buildAll state checked).1) :
    ∃ entry ∈ checked, ∃ before,
      resource = (generator.buildResource entry.1 entry.2 before).1 := by
  induction checked generalizing state with
  | nil => contradiction
  | cons first rest induction =>
      rcases List.mem_cons.mp member with rfl | member
      · exact ⟨first, List.mem_cons_self, state, rfl⟩
      · rcases induction member with ⟨entry, isEntry, built⟩
        exact ⟨entry, List.mem_cons_of_mem first isEntry, built⟩

/-- What any of the resources that are declared asks for. -/
def AsksIn (generator : Generator) (descriptors : List (String × Descriptor))
    (demand : TypeDemand) : Prop :=
  ∃ descriptor ∈ Keyed.values descriptors, ∃ support,
    generator.checker.check descriptor = .ok support ∧ descriptor.Asks support demand

/-- A model is generated in a run that begins with nothing. -/
theorem generate_runs {descriptors : List (String × Descriptor)} {model : ClientModel}
    (generated : generator.generate descriptors = .ok model) :
    ∃ state, generator.Runs (generator.AsksIn descriptors) .empty
        (model.resources.flatMap (·.types)) state ∧
      model.types = Keyed.values state.build.types ∧
      model.mentions = ComponentMention.sort state.build.mentions := by
  rcases generate_eq_ok_iff.mp generated with ⟨checked, isOk, rfl⟩
  rcases checkAll_eq_ok isOk with ⟨listed, passed⟩
  refine ⟨_, buildAll_runs ?_ .empty, rfl, rfl⟩
  intro entry member demand isAsked
  have declared : entry.1 ∈ inOrder descriptors := listed ▸ List.mem_map_of_mem member
  exact ⟨entry.1, List.mem_mergeSort.mp declared, entry.2, passed entry member, isAsked⟩

/-- Each resource of a model is built for a descriptor that passed its check. -/
theorem exists_of_mem_resources {descriptors : List (String × Descriptor)} {model : ClientModel}
    (generated : generator.generate descriptors = .ok model) {resource : ResourceModel}
    (member : resource ∈ model.resources) :
    ∃ descriptor ∈ Keyed.values descriptors, ∃ support before,
      generator.checker.check descriptor = .ok support ∧
        resource = (generator.buildResource descriptor support before).1 := by
  rcases generate_eq_ok_iff.mp generated with ⟨checked, isOk, rfl⟩
  rcases checkAll_eq_ok isOk with ⟨listed, passed⟩
  rcases exists_of_mem_buildAll member with ⟨entry, isEntry, before, built⟩
  have declared : entry.1 ∈ inOrder descriptors := listed ▸ List.mem_map_of_mem isEntry
  exact ⟨entry.1, List.mem_mergeSort.mp declared, entry.2, before, passed entry isEntry, built⟩

end Generator
end RestModel
