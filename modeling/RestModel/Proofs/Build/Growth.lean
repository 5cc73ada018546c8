import RestModel.Proofs.Build.Steps
import RestModel.Proofs.Keyed

/-! # What stays between states of building -/

namespace RestModel.BuildState

/-- Everything that is built in one state is still there in another, in which the
same types are being built. -/
structure Grows (before after : BuildState) : Prop where
  building : after.building = before.building
  types : ∀ name type, Keyed.get? name before.types = some type →
    Keyed.get? name after.types = some type
  mentions : before.mentions <+: after.mentions

/-- Two states are the same, but for properties that were left out in between. -/
structure Keeps (before after : BuildState) : Prop where
  building : after.building = before.building
  types : after.types = before.types
  mentions : after.mentions = before.mentions
  omitted : before.omitted <+: after.omitted

theorem Keeps.refl (state : BuildState) : state.Keeps state :=
  ⟨rfl, rfl, rfl, List.prefix_refl _⟩

theorem Keeps.trans {first second third : BuildState} (left : first.Keeps second)
    (right : second.Keeps third) : first.Keeps third :=
  ⟨right.building.trans left.building, right.types.trans left.types,
    right.mentions.trans left.mentions, left.omitted.trans right.omitted⟩

theorem Keeps.grows {before after : BuildState} (keeps : before.Keeps after) :
    before.Grows after :=
  ⟨keeps.building, fun _ _ found => keeps.types ▸ found, keeps.mentions ▸ List.prefix_refl _⟩

theorem Keeps.knows {before after : BuildState} (keeps : before.Keeps after) (typeName : String) :
    after.knows typeName = before.knows typeName := by
  rw [BuildState.knows, BuildState.knows, keeps.types, keeps.building]

theorem Grows.refl (state : BuildState) : state.Grows state := (Keeps.refl state).grows

theorem Grows.trans {first second third : BuildState} (left : first.Grows second)
    (right : second.Grows third) : first.Grows third :=
  ⟨right.building.trans left.building,
    fun name type found => right.types name type (left.types name type found),
    left.mentions.trans right.mentions⟩

theorem Grows.knows {before after : BuildState} (grows : before.Grows after) {typeName : String}
    (known : before.knows typeName = true) : after.knows typeName = true := by
  simp only [BuildState.knows, Bool.or_eq_true] at known ⊢
  rw [grows.building]
  rcases known with built | building
  · rcases Option.isSome_iff_exists.mp built with ⟨type, found⟩
    left
    simp [Keyed.contains, grows.types typeName type found]
  · exact .inr building

theorem keeps_leaveOut (state : BuildState) (omitted : OmittedProperty) :
    state.Keeps (state.leaveOut omitted) :=
  ⟨rfl, rfl, rfl, List.prefix_append _ _⟩

theorem grows_mention (state : BuildState) (mention : ComponentMention) :
    state.Grows (state.mention mention) := by
  refine ⟨rfl, fun _ _ found => found, ?_⟩
  simp only [BuildState.mention, ComponentMention.record]
  split
  · exact List.prefix_refl _
  · exact List.prefix_append _ _

theorem grows_takeOmitted (state : BuildState) : state.Grows state.takeOmitted.2 :=
  ⟨rfl, fun _ _ found => found, List.prefix_refl _⟩

theorem Keeps.of_enclose {state after : BuildState} {typeName : String}
    (keeps : (state.enclose typeName).Keeps after) : state.Keeps (after.release typeName) := by
  refine ⟨?_, keeps.types, keeps.mentions, keeps.omitted⟩
  simp [release, keeps.building, enclose]

theorem Grows.of_enclose {state after : BuildState} {typeName : String}
    (grows : (state.enclose typeName).Grows after) (type : RecordType) :
    state.Grows ((after.release typeName).register type) := by
  refine ⟨?_, ?_, grows.mentions⟩
  · simp [register, release, grows.building, enclose]
  · intro name stored found
    exact Keyed.get?_insertNew_of_some (grows.types name stored found)

theorem not_mem_building_of_unknown {state : BuildState} {typeName : String}
    (unknown : state.knows typeName = false) : typeName ∉ state.building := by
  intro member
  simp [BuildState.knows, member] at unknown

theorem knows_register (state : BuildState) (type : RecordType) :
    (state.register type).knows type.name = true := by
  simp [BuildState.knows, register, TypeTable.register, Keyed.contains_insertNew_self]

end RestModel.BuildState
