import RestModel.Proofs.Build.Lawful

/-! # Calls on a builder

A builder is used by one call after another, each of which may fail. The states
it comes into are those after any list of calls, and between calls no type is
being built. -/

namespace RestModel

/-- What a builder is asked to build. -/
inductive BuildRequest where
  | model (name : String) (schema : Schema)
  | operation (name : String) (verb : Verb) (path : String) (part : Part)

/-- A call on a builder. -/
inductive BuilderCall where
  | build (request : BuildRequest)
  | takeOmitted

namespace Build

/-- The state that a step leaves, whether it succeeds or fails. -/
def stateAfter (step : Build α) (state : BuildState) : BuildState :=
  match step state with
  | .ok _ after | .error _ after => after

theorem Ensures.stateAfter {step : Build α} {state : BuildState} {holds : BuildState → Prop}
    (ensures : Ensures step state (fun _ => holds) (fun _ => holds)) :
    holds (stateAfter step state) := by
  unfold Ensures at ensures
  unfold Build.stateAfter
  cases run : step state <;> simpa only [run] using ensures

end Build

namespace Builder

/-- Build what is asked for. -/
def build (builder : Builder) : BuildRequest → Build TypeBody
  | .model name schema => builder.model name schema
  | .operation name verb path part => builder.operation name verb path part

/-- The names of the types of the objects within a model that is asked for. -/
def objectNames (builder : Builder) : BuildRequest → List String
  | .model name schema => schema.modelNames name
  | .operation name verb path part =>
      match builder.document.operationSchema verb path part with
      | .ok (some found) => found.schema.modelNames name
      | _ => []

/-- The names of the types of the objects within what a call builds. -/
def callNames (builder : Builder) : BuilderCall → List String
  | .build request => builder.objectNames request
  | .takeOmitted => []

/-- The state after one more call. -/
def call (builder : Builder) (state : BuildState) : BuilderCall → BuildState
  | .build request => Build.stateAfter (builder.build request) state
  | .takeOmitted => state.takeOmitted.2

/-- The state after a list of calls. -/
def stateAfter (builder : Builder) (calls : List BuilderCall) : BuildState :=
  calls.foldl builder.call .empty

theorem build_lawful (builder : Builder) {law : BuildLaw} {names : TypeNames}
    (holds : ∀ enter, law.Holds names { builder.context with enter }) {request : BuildRequest}
    (admits : names.Admits (builder.objectNames request)) :
    law.MakesBody (builder.build request) := by
  cases request with
  | model name schema => exact BuildLaw.model_lawful holds admits
  | operation name verb path part =>
      apply BuildLaw.operation_lawful holds
      intro found isFound
      simpa only [objectNames, isFound] using admits

private theorem call_lawful (builder : Builder) {law : BuildLaw} {names : TypeNames}
    (holds : ∀ enter, law.Holds names { builder.context with enter }) {call : BuilderCall}
    (admits : names.Admits (builder.callNames call)) {state : BuildState}
    (obeyed : law.state state) : law.Advances state (builder.call state call) := by
  have outside := holds builder.context.enter
  cases call with
  | build request =>
      have advances : Build.Ensures (builder.build request) state
          (fun _ after => law.Advances state after) (fun _ after => law.Advances state after) :=
        (builder.build_lawful holds admits state obeyed).mono (fun _ _ built => built.1)
          fun _ _ keeps => outside.advances keeps obeyed
      exact advances.stateAfter
  | takeOmitted => exact ⟨BuildState.grows_takeOmitted state, outside.takeOmitted obeyed⟩

/-- What is built by any list of calls obeys a law. -/
theorem stateAfter_lawful (builder : Builder) {law : BuildLaw} {names : TypeNames}
    (holds : ∀ enter, law.Holds names { builder.context with enter })
    (initial : law.state .empty) {calls : List BuilderCall}
    (admits : ∀ call ∈ calls, names.Admits (builder.callNames call)) :
    law.state (builder.stateAfter calls) := by
  suffices ∀ (calls : List BuilderCall) (state : BuildState), law.state state →
      (∀ call ∈ calls, names.Admits (builder.callNames call)) →
      law.state (calls.foldl builder.call state) from this calls .empty initial admits
  intro calls
  induction calls with
  | nil => exact fun _ obeyed _ => obeyed
  | cons call rest induction =>
      intro state obeyed admits
      have advances := builder.call_lawful holds (admits call List.mem_cons_self) obeyed
      exact induction _ advances.state fun other member =>
        admits other (List.mem_cons_of_mem _ member)

theorem build_grows (builder : Builder) (request : BuildRequest) (state : BuildState) :
    Build.Ensures (builder.build request) state (fun _ after => state.Grows after)
      fun _ after => state.Keeps after := by
  have lawful := builder.build_lawful (fun _ => BuildLaw.unrestricted_holds _)
    (TypeNames.any_admits (builder.objectNames request))
  exact (lawful state trivial).mono (fun _ _ built => built.1.grows) fun _ _ keeps => keeps

private theorem call_building (builder : Builder) (state : BuildState) (call : BuilderCall) :
    (builder.call state call).building = state.building := by
  cases call with
  | build request =>
      have idle : Build.Ensures (builder.build request) state
          (fun _ after => after.building = state.building)
          (fun _ after => after.building = state.building) :=
        (builder.build_grows request state).mono (fun _ _ grows => grows.building)
          fun _ _ keeps => keeps.building
      exact idle.stateAfter
  | takeOmitted => rfl

theorem stateAfter_building (builder : Builder) (calls : List BuilderCall) :
    (builder.stateAfter calls).building = [] := by
  suffices ∀ (calls : List BuilderCall) (state : BuildState),
      (calls.foldl builder.call state).building = state.building from this calls .empty
  intro calls
  induction calls with
  | nil => exact fun _ => rfl
  | cons call rest induction =>
      intro state
      rw [List.foldl_cons, induction, builder.call_building]

/-- A call that fails leaves the types, the mentions and the types being built as they
were; a call that succeeds keeps every type and every mention, and nothing is being
built before or after it. -/
theorem build_atomic (builder : Builder) (calls : List BuilderCall) (request : BuildRequest) :
    let state := builder.stateAfter calls
    match builder.build request state with
    | .error _ after =>
        after.types = state.types ∧ after.mentions = state.mentions ∧
          after.building = state.building ∧ state.omitted <+: after.omitted
    | .ok _ after =>
        state.building = [] ∧ after.building = [] ∧
          (∀ name type, Keyed.get? name state.types = some type →
            Keyed.get? name after.types = some type) ∧
          state.mentions <+: after.mentions := by
  intro state
  have idle : state.building = [] := builder.stateAfter_building calls
  have ensures := builder.build_grows request state
  unfold Build.Ensures at ensures
  split
  · next run =>
      rw [run] at ensures
      exact ⟨ensures.types, ensures.mentions, ensures.building, ensures.omitted⟩
  · next run =>
      rw [run] at ensures
      exact ⟨idle, ensures.building.trans idle, ensures.types, ensures.mentions⟩

end Builder
end RestModel
