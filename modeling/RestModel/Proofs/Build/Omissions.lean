import RestModel.Proofs.Build.Compositions

/-! # What is left out does not matter

What a state has been told about properties without fields is never asked for
again: it makes no difference to anything that is built later. -/

namespace RestModel

/-- The same is built, and is being built, in two states. -/
structure BuildState.SameBuilt (state other : BuildState) : Prop where
  types : state.types = other.types
  mentions : state.mentions = other.mentions
  building : state.building = other.building

namespace BuildState.SameBuilt

variable {state other : BuildState}

theorem refl (state : BuildState) : state.SameBuilt state := ⟨rfl, rfl, rfl⟩

theorem trans {first second third : BuildState} (left : first.SameBuilt second)
    (right : second.SameBuilt third) : first.SameBuilt third :=
  ⟨left.types.trans right.types, left.mentions.trans right.mentions,
    left.building.trans right.building⟩

theorem knows (same : state.SameBuilt other) (typeName : String) :
    state.knows typeName = other.knows typeName := by
  rw [BuildState.knows, BuildState.knows, same.types, same.building]

theorem enclose (same : state.SameBuilt other) (typeName : String) :
    (state.enclose typeName).SameBuilt (other.enclose typeName) :=
  ⟨same.types, same.mentions, congrArg (typeName :: ·) same.building⟩

theorem release (same : state.SameBuilt other) (typeName : String) :
    (state.release typeName).SameBuilt (other.release typeName) :=
  ⟨same.types, same.mentions, congrArg (·.erase typeName) same.building⟩

theorem register (same : state.SameBuilt other) (type : RecordType) :
    (state.register type).SameBuilt (other.register type) :=
  ⟨congrArg (TypeTable.register · type) same.types, same.mentions, same.building⟩

theorem mention (same : state.SameBuilt other) (mention : ComponentMention) :
    (state.mention mention).SameBuilt (other.mention mention) :=
  ⟨same.types, congrArg (ComponentMention.record · mention) same.mentions, same.building⟩

theorem takeOmitted (same : state.SameBuilt other) :
    state.takeOmitted.2.SameBuilt other.takeOmitted.2 :=
  ⟨same.types, same.mentions, same.building⟩

theorem leaveOut (same : state.SameBuilt other) (omitted : OmittedProperty) :
    (state.leaveOut omitted).SameBuilt (other.leaveOut omitted) :=
  ⟨same.types, same.mentions, same.building⟩

end BuildState.SameBuilt

namespace Build

/-- Two outcomes are the same, but for what was left out. -/
inductive SameOutcome {α : Type} : EStateM.Result BuildError BuildState α →
    EStateM.Result BuildError BuildState α → Prop where
  | ok {value : α} {after other : BuildState} : after.SameBuilt other →
      SameOutcome (.ok value after) (.ok value other)
  | error {problem : BuildError} {after other : BuildState} : after.SameBuilt other →
      SameOutcome (.error problem after) (.error problem other)

/-- A step does not look at what was left out before. -/
def Blind (step : Build α) : Prop :=
  ∀ state other : BuildState, state.SameBuilt other → SameOutcome (step state) (step other)

theorem Blind.bind {first : Build β} {next : β → Build α} (blind : Blind first)
    (others : ∀ value, Blind (next value)) : Blind (first >>= next) := by
  intro state other same
  rw [bind_apply, bind_apply]
  have outcome := blind state other same
  generalize first state = left, first other = right at outcome
  cases outcome with
  | ok after => exact others _ _ _ after
  | error after => exact .error after

theorem Blind.succeeds {step : Build Unit} (blind : Blind step) : Blind (succeeds step) := by
  intro state other same
  rw [succeeds_apply, succeeds_apply]
  have outcome := blind state other same
  generalize step state = left, step other = right at outcome
  cases outcome with
  | ok after => exact .ok after
  | error after => exact .ok after

theorem Blind.ensureType {typeName : String} {component doc : Option String}
    {body : Build FieldList} (blind : Blind body) :
    Blind (ensureType typeName component doc body) := by
  intro state other same
  have alike := same.knows typeName
  cases known : state.knows typeName with
  | true =>
      rw [ensureType_of_known known, ensureType_of_known (alike.symm.trans known)]
      exact .ok same
  | false =>
      rw [ensureType_of_unknown known, ensureType_of_unknown (alike.symm.trans known)]
      have outcome := blind _ _ (same.enclose typeName)
      generalize body (state.enclose typeName) = left, body (other.enclose typeName) = right
        at outcome
      cases outcome with
      | ok after => exact .ok ((after.release typeName).register _)
      | error after => exact .error (after.release typeName)

theorem Blind.nestedObject {step : Build Unit} {onEmpty onBuilt : Build α} (blind : Blind step)
    (empty : Blind onEmpty) (built : Blind onBuilt) :
    Blind (nestedObject step onEmpty onBuilt) := by
  intro state other same
  rw [nestedObject_apply, nestedObject_apply]
  have outcome := blind state other same
  generalize step state = left, step other = right at outcome
  cases outcome with
  | ok after => exact built _ _ after
  | @error problem _ _ after =>
      cases problem with
      | emptyFields typeName => exact empty _ _ after
      | _ => exact .error after

private theorem blind_composes {aliasing : Bool} {resolve? : String → Option Schema}
    {enter : Component → Build Unit} (enters : ∀ component, Blind (enter component)) :
    Composes aliasing resolve? anywhere fun _ step => Blind (step enter) where
  pure _ := fun _ _ same => .ok same
  throw _ := fun _ _ same => .error same
  isKnown typeName := by
    intro state other same
    have alike : isKnown typeName other = .ok (state.knows typeName) other := by
      rw [same.knows typeName]
      rfl
    change SameOutcome (isKnown typeName state) (isKnown typeName other)
    rw [alike]
    exact .ok same
  leaveOut _ _ _ := fun _ _ same => .ok (same.leaveOut _)
  recordMention _ := fun _ _ same => .ok (same.mention _)
  enter _ := enters _
  bind := .bind
  succeeds := .succeeds
  ensureType _ := .ensureType
  nestedObject := .nestedObject

end Build

private theorem Builder.model_blind (builder : Builder) (name : String) (schema : Schema) :
    Build.Blind (builder.model name schema) :=
  (Build.blind_composes (Build.enterWithin_of_composes (fun _ _ _ same => .error same) .ensureType
    Build.blind_composes _)).model name schema

theorem Builder.operation_blind (builder : Builder) (name : String) (verb : Verb)
    (path : String) (part : Part) : Build.Blind (builder.operation name verb path part) := by
  unfold Builder.operation
  split
  · exact builder.model_blind name _
  · exact fun _ _ same => .error same

end RestModel
