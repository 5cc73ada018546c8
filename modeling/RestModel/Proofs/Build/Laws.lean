import RestModel.Proofs.Build.Growth
import RestModel.Proofs.Build.TypeNames

/-! # Laws of building

A law says what holds of the state between steps, of the types of items and of
the types of fields. If the few ways to change a state and to make a type obey a
law, everything that is built obeys it, as long as types get no other names than
those that the law was shown for.

A step that succeeds only adds to what is built. A step that fails has built
nothing: it fails because every property of an object was left out, and nothing
is built for a property that is left out. -/

namespace RestModel

/-- What holds of states, of the types of items and values, and of the types of
fields. -/
structure BuildLaw where
  state : BuildState → Prop
  element : BuildState → TypeRef → Prop
  field : BuildState → TypeRef → Prop

namespace BuildLaw

/-- The fields of a type and the type of all other properties obey a law. -/
def list (law : BuildLaw) (state : BuildState) (fields : FieldList) : Prop :=
  (∀ field ∈ fields.fields, law.field state field.type) ∧
    ∀ type ∈ fields.additional, law.element state type

/-- A model obeys a law. -/
def body (law : BuildLaw) (state : BuildState) : TypeBody → Prop
  | .fields list => law.list state list
  | .alias target => law.element state target

/-- The ways to change a state and to make a type obey a law, where types get some
names only. -/
structure Holds (law : BuildLaw) (names : TypeNames) (context : BuildContext) : Prop where
  covers : names.Covers context.resolve?
  keeps {before after : BuildState} : before.Keeps after → law.state before → law.state after
  takeOmitted {state : BuildState} : law.state state → law.state state.takeOmitted.2
  enclose {state : BuildState} (typeName : String) :
    law.state state → law.state (state.enclose typeName)
  register {state : BuildState} {type : RecordType} : names.Allows type → law.state state →
    law.list state ⟨type.fields, type.additional⟩ →
    law.state ((state.release type.name).register type)
  mention {state : BuildState} {schema : Schema} {found : ComponentMatch} (target : String) :
    context.sharedComponent? schema = some found →
    state.knows found.component.typeName = true → law.state state →
    law.state (state.mention (found.mention target))
  elementGrows {before after : BuildState} {type : TypeRef} : before.Grows after →
    law.element before type → law.element after type
  fieldGrows {before after : BuildState} {type : TypeRef} : before.Grows after →
    law.field before type → law.field after type
  elementPrimitive (state : BuildState) (kind : Primitive) (format : Option String) :
    law.element state (.primitive kind format)
  elementNamed {state : BuildState} {typeName : String} : state.knows typeName = true →
    law.element state (.named typeName)
  elementArray {state : BuildState} {item : TypeRef} : law.element state item →
    law.element state (.array item)
  elementMap {state : BuildState} {value : TypeRef} : law.element state value →
    law.element state (.map value)
  fieldPrimitive (state : BuildState) (kind : Primitive) (format : Option String) :
    law.field state (.primitive kind format)
  fieldMap {state : BuildState} {value : TypeRef} : law.element state value →
    law.field state (.map value)
  fieldWrapped {state : BuildState} {inner : TypeRef} : law.element state inner →
    law.field state (.wrapped inner)

variable {law : BuildLaw} {names : TypeNames} {context : BuildContext}

private theorem Holds.listGrows (holds : law.Holds names context) {before after : BuildState}
    {fields : FieldList} (grows : before.Grows after) (obeyed : law.list before fields) :
    law.list after fields :=
  ⟨fun field member => holds.fieldGrows grows (obeyed.1 field member),
    fun type member => holds.elementGrows grows (obeyed.2 type member)⟩

theorem Holds.bodyGrows (holds : law.Holds names context) {before after : BuildState}
    (grows : before.Grows after) : ∀ {body : TypeBody}, law.body before body → law.body after body
  | .fields _, obeyed => holds.listGrows grows obeyed
  | .alias _, obeyed => holds.elementGrows grows obeyed

/-- The component that a schema refers to is mentioned by its type or by an array of
it. -/
theorem Holds.typeRef (holds : law.Holds names context) {state : BuildState}
    (found : ComponentMatch) (known : state.knows found.component.typeName = true) :
    law.element state found.typeRef := by
  unfold ComponentMatch.typeRef
  split
  · exact holds.elementArray (holds.elementNamed known)
  · exact holds.elementNamed known

/-- A state is followed by another one that has all that it has and obeys a law. -/
structure Advances (law : BuildLaw) (before after : BuildState) : Prop where
  grows : before.Grows after
  state : law.state after

theorem Advances.trans {first second third : BuildState} (left : law.Advances first second)
    (right : law.Advances second third) : law.Advances first third :=
  ⟨left.grows.trans right.grows, right.state⟩

theorem Holds.advances (holds : law.Holds names context) {before after : BuildState}
    (keeps : before.Keeps after) (obeyed : law.state before) : law.Advances before after :=
  ⟨keeps.grows, holds.keeps keeps obeyed⟩

/-- Entering a component advances to a state that knows its type, or fails and builds
nothing. -/
def Enters (law : BuildLaw) (names : TypeNames) (context : BuildContext) : Prop :=
  ∀ component state, names.component component → law.state state →
    Build.Ensures (context.enter component) state
      (fun _ after => law.Advances state after ∧ after.knows component.typeName = true)
      (fun _ after => state.Keeps after)

/-- A step always makes the type of an item or value. -/
def MakesElement (law : BuildLaw) (step : Build TypeRef) : Prop :=
  ∀ state, law.state state → Build.Ensures step state
    (fun type after => law.Advances state after ∧ law.element after type) (fun _ _ => False)

/-- A step makes the type of a field, or builds nothing. -/
def MakesField (law : BuildLaw) (step : Build (Option TypeRef)) : Prop :=
  ∀ state, law.state state → Build.Ensures step state
    (fun type? after => law.Advances state after ∧ (type? = none → state.Keeps after) ∧
      ∀ type ∈ type?, law.field after type)
    (fun _ _ => False)

/-- A step makes fields, or builds nothing. -/
def MakesFields (law : BuildLaw) (step : Build (List Field)) : Prop :=
  ∀ state, law.state state → Build.Ensures step state
    (fun fields after => law.Advances state after ∧ (fields = [] → state.Keeps after) ∧
      ∀ field ∈ fields, law.field after field.type)
    (fun _ _ => False)

/-- A step makes a field list, or fails as is `allowed` and builds nothing. -/
def MakesList (law : BuildLaw) (allowed : BuildError → Prop) (step : Build FieldList) : Prop :=
  ∀ state, law.state state → Build.Ensures step state
    (fun fields after => law.Advances state after ∧ law.list after fields)
    (fun problem after => allowed problem ∧ state.Keeps after)

/-- A step makes a model, or builds nothing. -/
def MakesBody (law : BuildLaw) (step : Build TypeBody) : Prop :=
  ∀ state, law.state state → Build.Ensures step state
    (fun body after => law.Advances state after ∧ law.body after body)
    (fun _ after => state.Keeps after)

/-- The law that everything obeys. -/
def unrestricted : BuildLaw where
  state _ := True
  element _ _ := True
  field _ _ := True

theorem unrestricted_holds (context : BuildContext) : unrestricted.Holds .any context where
  covers := TypeNames.any_covers _
  keeps _ _ := trivial
  takeOmitted _ := trivial
  enclose _ _ := trivial
  register _ _ _ := trivial
  mention _ _ _ _ := trivial
  elementGrows _ _ := trivial
  fieldGrows _ _ := trivial
  elementPrimitive _ _ _ := trivial
  elementNamed _ := trivial
  elementArray _ := trivial
  elementMap _ := trivial
  fieldPrimitive _ _ _ := trivial
  fieldMap _ := trivial
  fieldWrapped _ := trivial

end BuildLaw
end RestModel
