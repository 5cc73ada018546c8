import RestModel.Proofs.Build.Lawful
import RestModel.Proofs.Generation.Runs

/-! # Everything that is generated obeys the laws of building

The laws of building hold of a whole run. What was generated early obeys them in
the last state, since each state has all that the ones before it have. -/

namespace RestModel

namespace BuildLaw

/-- From one state to another, types are generated that obey a law afterwards. -/
structure Generates (law : BuildLaw) (before : GenerationState) (types : List ResourceType)
    (after : GenerationState) : Prop where
  advances : law.Advances before.build after.build
  bodies : ∀ type ∈ types, law.body after.build type.body

variable {law : BuildLaw} {generator : Generator}

/-- A law holds of every way to build that the generator uses. -/
def HoldsIn (law : BuildLaw) (generator : Generator) : Prop :=
  ∀ enter, law.Holds .any { generator.builder.context with enter }

theorem HoldsIn.outside (holds : law.HoldsIn generator) :
    law.Holds .any generator.builder.context :=
  holds generator.builder.context.enter

theorem Generates.nothing {state : GenerationState} (obeyed : law.state state.build) :
    law.Generates state [] state :=
  ⟨⟨.refl _, obeyed⟩, nofun⟩

theorem Generates.trans (holds : law.HoldsIn generator) {first second third : GenerationState}
    {earlier later : List ResourceType} (left : law.Generates first earlier second)
    (right : law.Generates second later third) :
    law.Generates first (earlier ++ later) third where
  advances := left.advances.trans right.advances
  bodies type member := by
    rcases List.mem_append.mp member with old | new
    · exact holds.outside.bodyGrows right.advances.grows (left.bodies type old)
    · exact right.bodies type new

/-- The properties to search by are primitive. -/
theorem searchFields_lawful {context : BuildContext} (holds : law.Holds .any context)
    (state : BuildState) (schema : Schema) : law.list state ⟨searchFields schema, none⟩ := by
  refine ⟨?_, nofun⟩
  intro field member
  have unsorted := List.mem_mergeSort.mp member
  rcases List.mem_map.mp unsorted with ⟨entry, _, rfl⟩
  exact holds.fieldPrimitive _ _ _

end BuildLaw

namespace Generator

variable {law : BuildLaw} {generator : Generator} {asks : TypeDemand → Prop}
  {before after : GenerationState} {types : List ResourceType}

theorem Step.lawful (holds : law.HoldsIn generator)
    (step : generator.Step asks before types after) (obeyed : law.state before.build) :
    law.Generates before types after := by
  cases step with
  | @build stem role source _ _ _ _ built =>
      have makes : law.MakesBody (generator.builder.operation (before.takeName stem).1
          source.route.verb source.route.path source.part) :=
        BuildLaw.operation_lawful holds fun _ _ => TypeNames.any_admits _
      have lawful := makes before.build obeyed
      unfold Build.Ensures at lawful
      cases built with
      | absent => exact .nothing obeyed
      | built run =>
          rw [run] at lawful
          refine ⟨lawful.1, ?_⟩
          intro type member
          cases List.mem_singleton.mp member
          exact lawful.2
      | failed run =>
          rw [run] at lawful
          exact ⟨holds.outside.advances lawful obeyed, nofun⟩
  | search schema =>
      refine ⟨⟨.refl _, obeyed⟩, ?_⟩
      intro type member
      cases List.mem_singleton.mp member
      exact BuildLaw.searchFields_lawful holds.outside before.build schema
  | takeOmitted =>
      exact ⟨⟨BuildState.grows_takeOmitted _, holds.outside.takeOmitted obeyed⟩, nofun⟩

theorem Runs.lawful (holds : law.HoldsIn generator)
    (runs : generator.Runs asks before types after) (obeyed : law.state before.build) :
    law.Generates before types after := by
  induction runs with
  | refl => exact .nothing obeyed
  | tail _ step induction =>
      exact induction.trans holds (step.lawful holds induction.advances.state)
  | select _ selected induction =>
      exact ⟨induction.advances, fun type member =>
        induction.bodies type (selected.subset member)⟩

/-- A law that holds of nothing built holds of what is generated in some state in which
no type is being built. -/
theorem generate_lawful (holds : law.HoldsIn generator) (initial : law.state .empty)
    {descriptors : List (String × Descriptor)} {model : ClientModel}
    (generated : generator.generate descriptors = .ok model) :
    ∃ state, law.state state ∧ state.building = [] ∧
      model.types = Keyed.values state.types ∧
      model.mentions = ComponentMention.sort state.mentions ∧
      ∀ resource ∈ model.resources, ∀ type ∈ resource.types, law.body state type.body := by
  rcases generate_runs generated with ⟨state, runs, types, mentions⟩
  have lawful := runs.lawful holds initial
  refine ⟨state.build, lawful.advances.state, lawful.advances.grows.building, types, mentions, ?_⟩
  intro resource isResource type isType
  exact lawful.bodies type (List.mem_flatMap.mpr ⟨resource, isResource, isType⟩)

end Generator
end RestModel
