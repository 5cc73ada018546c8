import RestModel.Proofs.Generation.Runs
import RestModel.Proofs.Naming

/-! # Names that are taken

A type of a resource gets a name that no other type has. The name is taken before the
type is built, and stays taken when the build fails. -/

namespace RestModel

namespace GenerationState

variable {state : GenerationState}

theorem mem_takeName {name text : String} : text ∈ (state.takeName name).2.names ↔
    text = (state.takeName name).1 ∨ text ∈ state.names :=
  Naming.mem_insertText

theorem names_takeName (state : GenerationState) (name : String) :
    state.names ⊆ (state.takeName name).2.names :=
  fun _ taken => mem_takeName.mpr (.inr taken)

theorem takeName_candidate (state : GenerationState) (name : String) :
    ∃ index, (state.takeName name).1 = Naming.candidate name index := by
  rcases Naming.freshName_eq_candidate state.names name with ⟨index, chosen, _⟩
  exact ⟨index, chosen⟩

private theorem takeName_fresh (state : GenerationState) (name : String) :
    (state.takeName name).1 ∉ state.names :=
  Naming.freshName_not_mem state.names name

end GenerationState

namespace Generator

open GenerationState

variable {generator : Generator} {asks : TypeDemand → Prop}

/-- From one state to another, distinct names are taken for types. -/
structure Takes (before : GenerationState) (types : List ResourceType)
    (after : GenerationState) : Prop where
  subset : before.names ⊆ after.names
  fresh : ∀ type ∈ types, type.name ∉ before.names
  taken : ∀ type ∈ types, type.name ∈ after.names
  nodup : (types.map (·.name)).Nodup

theorem Takes.nothing {before after : GenerationState} (subset : before.names ⊆ after.names) :
    Takes before [] after :=
  ⟨subset, nofun, nofun, List.nodup_nil⟩

theorem Takes.one {before after : GenerationState} {stem : String} {type : ResourceType}
    (named : type.name = (before.takeName stem).1)
    (names : after.names = (before.takeName stem).2.names) : Takes before [type] after where
  subset := names ▸ names_takeName before stem
  fresh other member := by
    rw [List.mem_singleton.mp member, named]
    exact takeName_fresh before stem
  taken other member := by
    rw [List.mem_singleton.mp member, named, names]
    exact mem_takeName.mpr (.inl rfl)
  nodup := List.nodup_singleton _

theorem Takes.trans {first second third : GenerationState} {earlier later : List ResourceType}
    (left : Takes first earlier second) (right : Takes second later third) :
    Takes first (earlier ++ later) third where
  subset := List.Subset.trans left.subset right.subset
  fresh type member := by
    rcases List.mem_append.mp member with old | new
    · exact left.fresh type old
    · exact fun stale => right.fresh type new (left.subset stale)
  taken type member := by
    rcases List.mem_append.mp member with old | new
    · exact right.subset (left.taken type old)
    · exact right.taken type new
  nodup := by
    rw [List.map_append, List.nodup_append]
    refine ⟨left.nodup, right.nodup, ?_⟩
    rintro name old _ new rfl
    rcases List.mem_map.mp old with ⟨type, isEarlier, rfl⟩
    rcases List.mem_map.mp new with ⟨other, isLater, same⟩
    exact right.fresh other isLater (same ▸ left.taken type isEarlier)

theorem Takes.select {before after : GenerationState} {types others : List ResourceType}
    (takes : Takes before types after) (selected : others.Subperm types) :
    Takes before others after where
  subset := takes.subset
  fresh type member := takes.fresh type (selected.subset member)
  taken type member := takes.taken type (selected.subset member)
  nodup := by
    rcases selected with ⟨listed, permutation, sublist⟩
    have nodup := takes.nodup.sublist (sublist.map (·.name))
    exact (permutation.map (·.name)).nodup_iff.mp nodup

theorem Step.takes {before after : GenerationState} {types : List ResourceType}
    (step : generator.Step asks before types after) : Takes before types after := by
  cases step with
  | build _ built =>
      cases built with
      | absent => exact .nothing (List.Subset.refl _)
      | built => exact .one rfl rfl
      | failed => exact .nothing (names_takeName _ _)
  | search => exact .one rfl rfl
  | takeOmitted => exact .nothing (List.Subset.refl _)

theorem Runs.takes {before after : GenerationState} {types : List ResourceType}
    (runs : generator.Runs asks before types after) : Takes before types after := by
  induction runs with
  | refl => exact .nothing (List.Subset.refl _)
  | tail _ step induction => exact induction.trans step.takes
  | select _ selected induction => exact induction.select selected

/-- A type that is made in a step has a candidate for a name that is asked for. -/
def Demanded (asks : TypeDemand → Prop) (type : ResourceType) : Prop :=
  ∃ demand index, asks demand ∧ demand.role = type.role ∧
    type.name = Naming.candidate demand.stem index

theorem Step.demanded {before after : GenerationState} {types : List ResourceType}
    (step : generator.Step asks before types after) : ∀ type ∈ types, Demanded asks type := by
  intro type member
  cases step with
  | @build stem _ _ _ _ _ isAsked built =>
      cases built with
      | built =>
          rcases takeName_candidate before stem with ⟨index, chosen⟩
          rw [List.mem_singleton.mp member]
          exact ⟨_, index, isAsked, rfl, chosen⟩
      | absent | failed => contradiction
  | @search stem _ _ isAsked =>
      rcases takeName_candidate before stem with ⟨index, chosen⟩
      rw [List.mem_singleton.mp member]
      exact ⟨_, index, isAsked, rfl, chosen⟩
  | takeOmitted => contradiction

theorem Runs.demanded {before after : GenerationState} {types : List ResourceType}
    (runs : generator.Runs asks before types after) : ∀ type ∈ types, Demanded asks type := by
  induction runs with
  | refl => nofun
  | tail _ step induction =>
      intro type member
      rcases List.mem_append.mp member with old | new
      · exact induction type old
      · exact step.demanded type new
  | select _ selected induction => exact fun type member => induction type (selected.subset member)

/-! ## Names stay taken -/

/-- A name that is taken stays taken, whatever is asked for. -/
theorem Runs.names_subset {before after : GenerationState} {types : List ResourceType}
    (runs : generator.Runs (fun _ => True) before types after) : before.names ⊆ after.names :=
  runs.takes.subset

theorem names_subset_of_buildType {name : String} {role : TypeRole} {source : TypeSource}
    {outcome : Except BuildError (Option ResourceType)} {state after : GenerationState}
    (run : generator.buildType name role source state = (outcome, after)) :
    state.names ⊆ after.names :=
  Runs.names_subset (buildType_runs trivial run)

theorem names_subset_buildOrDrop (generator : Generator) (resource name : String)
    (role : TypeRole) (source : Option TypeSource) (support : Support)
    (state : GenerationState) :
    state.names ⊆ (generator.buildOrDrop resource name role source support state).state.names :=
  Runs.names_subset (buildOrDrop_runs (fun _ _ => trivial) support state)

theorem names_subset_searchParams (generator : Generator) (resource : String)
    (support : Support) (state : GenerationState) :
    state.names ⊆ (generator.searchParams resource support state).2.names :=
  Runs.names_subset (searchParams_runs trivial support state)

theorem names_subset_supportedMethods (generator : Generator) (resource : String)
    (methods : List ExtraMethod) (state : GenerationState) :
    state.names ⊆ (generator.supportedMethods resource state methods).2.2.2.names :=
  Runs.names_subset (supportedMethods_runs (fun _ _ => trivial) (fun _ _ => trivial) state)

theorem names_subset_buildAll (generator : Generator) (checked : List (Descriptor × Support))
    (state : GenerationState) : state.names ⊆ (generator.buildAll state checked).2.names :=
  Runs.names_subset (buildAll_runs (fun _ _ _ _ => trivial) state)

end Generator
end RestModel
