import RestModel.Proofs.Build.Entries
import RestModel.Proofs.Outside

/-! # Building halts

A component is built by a step of its own, which may enter further components.
Nothing here bounds how far this goes: it ends because a component is not entered
while a type of its name is being built, and there are only so many names. -/

namespace RestModel

namespace Build

/-- The step that builds a component: from its schema, unless its type is known. -/
def entry (aliasing : Bool) (resolve? : String → Option Schema) (component : Component) :
    Entering Unit := fun enter =>
  ensureType component.typeName (some component.name) component.schema.description
    (componentFields ⟨aliasing, resolve?, enter⟩ component)

/-- `Halts aliasing resolve? step state outcome` says that a step ends in an outcome
if each component that it enters is built by the step `entry` in turn. The step enters
finitely many components, all of them as the description resolves them, and each of
those entries halts. -/
inductive Halts (aliasing : Bool) (resolve? : String → Option Schema) :
    {α : Type} → Entering α → BuildState → EStateM.Result BuildError BuildState α → Prop where
  | intro {α : Type} {step : Entering α} {state : BuildState}
      (enter : Component → Build Unit) (asked : List (Component × BuildState))
      (components : ∀ entered ∈ asked, entered.1.IsOf resolve?)
      (depends : DependsOn enter asked step state)
      (answers : ∀ entered ∈ asked,
        Halts aliasing resolve? (entry aliasing resolve? entered.1) entered.2
          (enter entered.1 entered.2)) :
      Halts aliasing resolve? step state (step enter state)

variable {aliasing : Bool} {resolve? : String → Option Schema}

/-- A step halts in at most one outcome. -/
theorem Halts.unique {α : Type} {step : Entering α} {state : BuildState}
    {outcome other : EStateM.Result BuildError BuildState α}
    (halts : Halts aliasing resolve? step state outcome)
    (also : Halts aliasing resolve? step state other) : outcome = other := by
  classical
  induction halts with
  | @intro α step state enter asked components depends answers induction =>
      cases also with
      | intro second askedToo _ dependsToo answersToo =>
          -- One way to enter components that agrees with both where it matters.
          let both : Component → Build Unit := fun component state =>
            if (component, state) ∈ asked then enter component state else second component state
          have first : step both state = step enter state := depends both fun entered member =>
            if_pos member
          have last : step both state = step second state := by
            apply dependsToo both
            intro entered member
            by_cases shared : entered ∈ asked
            · exact (if_pos shared).trans (induction entered shared (answersToo entered member))
            · exact if_neg shared
          exact first.symm.trans last

private theorem enterWithin_restores (room : Nat) (component : Component) (state : BuildState) :
    (stateAfter (enterWithin aliasing resolve? room component) state).building =
      state.building := by
  have enters : BuildLaw.Enters _ _ ⟨aliasing, resolve?, enterWithin aliasing resolve? room⟩ :=
    BuildLaw.enterWithin_lawful (fun _ => BuildLaw.unrestricted_holds _) room
  have ensures : Ensures (enterWithin aliasing resolve? room component) state
      (fun _ after => after.building = state.building)
      (fun _ after => after.building = state.building) :=
    (enters component state trivial trivial).mono (fun _ _ built => built.1.grows.building)
      fun _ _ keeps => keeps.building
  exact ensures.stateAfter

private theorem modest_entry (room : Nat) (component : Component) :
    Modest resolve? (enterWithin aliasing resolve? room) (entry aliasing resolve? component) :=
  ((modest_composes (enterWithin_restores room)).componentFields component).ensureType

variable {typeNames : List String}

/-- A step that only enters components in states with room for the other types
halts. -/
theorem halts_of_asks {step : Entering α} {building : List String} {state : BuildState}
    {room : Nat} (asks : Asks resolve? (enterWithin aliasing resolve? room) building step state)
    (enough : outside typeNames building ≤ room)
    (answers : ∀ {component : Component} {state : BuildState}, component.IsOf resolve? →
      outside typeNames state.building ≤ room →
      Halts aliasing resolve? (entry aliasing resolve? component) state
        (enterWithin aliasing resolve? room component state)) :
    Halts aliasing resolve? step state (step (enterWithin aliasing resolve? room) state) := by
  rcases asks with ⟨asked, within, depends⟩
  refine .intro _ asked (fun entered member => (within entered member).1) depends ?_
  intro entered member
  rcases within entered member with ⟨isOf, subset⟩
  exact answers isOf (Nat.le_trans (outside_le_of_subset subset) enough)

private theorem halts_entry_of_known {component : Component} {state : BuildState}
    (known : state.knows component.typeName = true) (room : Nat) :
    Halts aliasing resolve? (entry aliasing resolve? component) state
      (enterWithin aliasing resolve? room component state) := by
  have nothing (enter : Component → Build Unit) :
      entry aliasing resolve? component enter state = .ok () state :=
    ensureType_of_known known
  rw [enterWithin_of_known aliasing resolve? room known, ← nothing fun _ => pure ()]
  exact .intro _ [] (by simp) (fun other _ => (nothing other).trans (nothing _).symm) (by simp)

/-- With room for every type that is not being built, entering a component halts. -/
theorem halts_entry
    (listed : ∀ component : Component, component.IsOf resolve? → component.typeName ∈ typeNames)
    {component : Component} (isOf : component.IsOf resolve?) {state : BuildState} {room : Nat}
    (enough : outside typeNames state.building ≤ room) :
    Halts aliasing resolve? (entry aliasing resolve? component) state
      (enterWithin aliasing resolve? room component state) := by
  cases known : state.knows component.typeName with
  | true => exact halts_entry_of_known known room
  | false =>
      have fewer := outside_cons_lt (listed component isOf)
        (BuildState.not_mem_building_of_unknown known)
      cases room with
      | zero => omega
      | succ room =>
          have modest : Modest resolve? (enterWithin aliasing resolve? room) fun enter =>
              componentFields ⟨aliasing, resolve?, enter⟩ component :=
            (modest_composes (enterWithin_restores room)).componentFields component
          have room : outside typeNames (component.typeName :: state.building) ≤ room := by omega
          exact halts_of_asks (asks_ensureType modest known) room fun isOf enough =>
            halts_entry listed isOf enough
termination_by room

/-- Every step along a schema halts, with room for every type that is not being
built. -/
theorem halts_of_modest
    (listed : ∀ component : Component, component.IsOf resolve? → component.typeName ∈ typeNames)
    {step : Entering α} {room : Nat}
    (modest : Modest resolve? (enterWithin aliasing resolve? room) step) {state : BuildState}
    (enough : outside typeNames state.building ≤ room) :
    Halts aliasing resolve? step state (step (enterWithin aliasing resolve? room) state) :=
  halts_of_asks (modest state).2 enough fun isOf enough => halts_entry listed isOf enough

/-- With room for every type that is not being built, it does not matter how much room
there is: a component is built from its schema, and so are those within it. -/
theorem enterWithin_eq_entry
    (listed : ∀ component : Component, component.IsOf resolve? → component.typeName ∈ typeNames)
    {component : Component} (isOf : component.IsOf resolve?) {state : BuildState} {room : Nat}
    (enough : outside typeNames state.building ≤ room) :
    enterWithin aliasing resolve? room component state =
      entry aliasing resolve? component (enterWithin aliasing resolve? room) state :=
  (halts_entry listed isOf enough).unique
    (halts_of_modest listed (modest_entry room component) enough)

end Build

namespace Builder

/-- The names of the types of components. -/
def typeNames (builder : Builder) : List String :=
  (Keyed.keys builder.document.components).map Naming.camelCase

theorem typeName_mem_typeNames (builder : Builder) {component : Component}
    (isOf : component.IsOf builder.document.component?) :
    component.typeName ∈ builder.typeNames := by
  rcases Component.ofName?_eq_some_iff.mp isOf with ⟨schema, resolved, _, made⟩
  rw [made]
  exact List.mem_map_of_mem (Document.mem_keys_of_component? resolved)

theorem outside_typeNames_le (builder : Builder) (state : BuildState) :
    outside builder.typeNames state.building ≤ builder.document.components.length := by
  have fewer := outside_le_length builder.typeNames state.building
  simpa [typeNames, Keyed.keys] using fewer

/-- A component whose type is not known is built from its schema. -/
theorem enter_of_unknown (builder : Builder) {component : Component} {state : BuildState}
    (isOf : component.IsOf builder.document.component?)
    (unknown : state.knows component.typeName = false) :
    builder.context.enter component state =
      match Build.componentFields builder.context component
          (state.enclose component.typeName) with
      | .ok list after => .ok () ((after.release component.typeName).register
          ⟨component.typeName, list.fields, list.additional, some component.name,
            component.schema.description⟩)
      | .error problem after => .error problem (after.release component.typeName) := by
  have entered : builder.context.enter component state =
      Build.entry builder.aliasing builder.document.component? component builder.context.enter
        state :=
    Build.enterWithin_eq_entry (fun _ => builder.typeName_mem_typeNames) isOf
      (builder.outside_typeNames_le state)
  exact entered.trans (Build.ensureType_of_unknown unknown)

/-- A component that could not be built is no more known than before. -/
theorem unknown_of_enter_fails (builder : Builder) {component : Component}
    {state after : BuildState} {problem : BuildError}
    (unknown : state.knows component.typeName = false)
    (fails : builder.context.enter component state = .error problem after) :
    after.knows component.typeName = false := by
  have enters : BuildLaw.Enters _ _ builder.context :=
    BuildLaw.context_lawful fun _ => BuildLaw.unrestricted_holds _
  have keeps := enters component state trivial trivial
  unfold Build.Ensures at keeps
  rw [fails] at keeps
  exact (keeps.knows component.typeName).trans unknown

/-- Building a model halts in one outcome, whatever the components refer to and
whatever was built before. Wherever a component is entered whose type is not known,
it is built from its schema, resolved on its own; and where that fails, its type is
still not known, so the next entry builds it again. -/
theorem model_terminates (builder : Builder) :
    (∀ name schema state outcome,
      Build.Halts builder.aliasing builder.document.component?
          (fun enter => Build.model { builder.context with enter } name schema) state outcome ↔
        outcome = builder.model name schema state) ∧
    ∀ name component state, Component.ofName? builder.document.component? name = some component →
      state.knows component.typeName = false →
      builder.context.enter component state =
        (match Build.componentFields builder.context component
            (state.enclose component.typeName) with
        | .ok list after => .ok () ((after.release component.typeName).register
            ⟨component.typeName, list.fields, list.additional, some component.name,
              component.schema.description⟩)
        | .error problem after => .error problem (after.release component.typeName)) ∧
      ∀ problem after, builder.context.enter component state = .error problem after →
        after.knows component.typeName = false := by
  constructor
  · intro name schema state outcome
    have halts : Build.Halts builder.aliasing builder.document.component?
        (fun enter => Build.model { builder.context with enter } name schema) state
        (builder.model name schema state) :=
      Build.halts_of_modest (fun _ => builder.typeName_mem_typeNames)
        ((Build.modest_composes (Build.enterWithin_restores _)).model name schema)
        (builder.outside_typeNames_le state)
    constructor
    · exact fun also => also.unique halts
    · rintro rfl
      exact halts
  · intro name component state isComponent unknown
    exact ⟨builder.enter_of_unknown (Component.isOf_of_ofName? isComponent) unknown,
      fun _ _ fails => builder.unknown_of_enter_fails unknown fails⟩

/-- Folders within folders, each with an owner, of whom nothing is known. -/
def folders : Builder where
  document := {
    title := "Folders"
    paths := []
    components :=
      [("Folder", .object [("properties", .object
          [("owner", .object [("$ref", .string "#/components/schemas/Owner")]),
            ("parent", .object [("$ref", .string "#/components/schemas/Folder")])])]),
        ("Owner", .object [("properties", .object
          [("details", .object [("type", .string "object")])])])]
    sharedRequests := []
    sharedResponses := []
    listWrapperKeys := [] }
  aliasing := true

/-- The component of owners. -/
def owner : Component where
  name := "Owner"
  typeName := Naming.camelCase "Owner"
  reference := Schema.componentPath ++ "Owner"
  schema := (folders.document.component? "Owner").getD .free

/-- Owners cannot be built. A second attempt fails like the first. -/
theorem model_terminates_folders :
    Component.ofName? folders.document.component? "Owner" = some owner ∧
      let failed := Build.stateAfter (folders.context.enter owner) .empty
      failed.knows owner.typeName = false ∧
        ∃ problem after, folders.context.enter owner failed = .error problem after ∧
          after.knows owner.typeName = false := by
  have isOwner : Component.ofName? folders.document.component? "Owner" = some owner := by
    have declared : (folders.document.component? "Owner").isSome = true := by decide +kernel
    rcases Option.isSome_iff_exists.mp declared with ⟨schema, found⟩
    have resolved : folders.document.component? "Owner" = some owner.schema := by
      simp [owner, found]
    have isRecord : owner.schema.shape.isRecord = true := by decide +kernel
    exact Component.ofName?_eq_some_iff.mpr ⟨_, resolved, isRecord, rfl⟩
  have unknown : (Build.stateAfter (folders.context.enter owner) .empty).knows owner.typeName =
      false := by decide +kernel
  have again := (model_terminates folders).2 "Owner" owner _ isOwner unknown
  refine ⟨isOwner, unknown, ?_⟩
  cases run : folders.context.enter owner
      (Build.stateAfter (folders.context.enter owner) .empty) with
  | ok value after =>
      have fails : (folders.context.enter owner).run'
          (Build.stateAfter (folders.context.enter owner) .empty) = none := by decide +kernel
      have yields : (folders.context.enter owner).run'
          (Build.stateAfter (folders.context.enter owner) .empty) = some value := by
        delta EStateM.run' EStateM.run
        rw [run]
      rw [fails] at yields
      cases yields
  | error problem after => exact ⟨problem, after, rfl, again.2 problem after run⟩

end Builder

end RestModel
