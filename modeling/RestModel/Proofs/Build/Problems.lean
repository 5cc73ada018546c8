import RestModel.Proofs.Build.Halting
import RestModel.Proofs.Build.Solid

/-! # How building fails

Fields, items and values are always built. An object fails for one reason only: none
of its properties has a field. The same goes for components, as they are objects or
maps. Only a model can fail for its shape, and then it is that of its own schema. -/

namespace RestModel

/-- What can be wrong with a schema that a model of a name is to be made from. -/
inductive Schema.Spoils (schema : Schema) (name : String) : BuildError → Prop where
  | emptyFields : schema.shape = .object → Spoils schema name (.emptyFields name)
  | indeterminate : schema.shape = .ambiguousObject → Spoils schema name (.indeterminate name)
  | arrayOfAmbiguousObjects : schema.shape.hasAmbiguousItems = true →
      Spoils schema name (.arrayOfAmbiguousObjects name)

namespace Build

open BuildLaw

/-- A step succeeds, or else fails because a type of a name has no fields, whatever was
built before. -/
def BuildsUnlessEmpty (step : Build α) (typeName : String) : Prop :=
  ∀ state, Ensures step state (fun _ _ => True) fun problem _ => problem = .emptyFields typeName

theorem Yields.ensures {step : Build α} {kind : α → Prop} (yields : Yields step kind)
    {fails : BuildError → BuildState → Prop} (state : BuildState) :
    Ensures step state (fun value _ => kind value) fails :=
  (yields state).mono_fails fun _ _ => False.elim

theorem BuildsUnlessEmpty.ensureType {typeName other : String} {component doc : Option String}
    {body : Build FieldList} (builds : BuildsUnlessEmpty body other) :
    BuildsUnlessEmpty (ensureType typeName component doc body) other := by
  intro state
  apply ensures_ensureType
  · exact fun _ => trivial
  · exact fun _ => (builds (state.enclose typeName)).mono (fun _ _ _ => trivial) fun _ _ => id

variable {context : BuildContext}

private theorem objectFields_buildsUnlessEmpty (enters : unrestricted.Enters .any context)
    (typeName : String) (schema : Schema) :
    BuildsUnlessEmpty (objectFields context typeName schema) typeName := by
  intro state
  have lawful := objectFields_lawful (unrestricted_holds context) enters
    (TypeNames.any_admits (schema.innerNames typeName)) state trivial
  exact lawful.mono (fun _ _ _ => trivial) fun _ _ failed => failed.1

private theorem componentFields_buildsUnlessEmpty (enters : unrestricted.Enters .any context)
    (component : Component) :
    BuildsUnlessEmpty (componentFields context component) component.typeName := by
  unfold componentFields
  split
  · exact fun state => ((yields_optionalType enters _ _).ensures state).bind
      fun _ _ _ => ensures_pure trivial
  · exact objectFields_buildsUnlessEmpty enters _ _

private theorem yields_elementType (enters : unrestricted.Enters .any context) (name : String)
    (schema : Schema) : Yields (elementType context name schema) fun _ => True :=
  yields_optionalType enters name (some schema)

/-- A model is made from a schema, unless something is wrong with the schema. -/
theorem ensures_model (enters : unrestricted.Enters .any context) (name : String)
    (schema : Schema) (state : BuildState) :
    Ensures (model context name schema) state (fun _ _ => True)
      fun problem _ => schema.Spoils name problem := by
  unfold Build.model
  apply ((yields_alias? enters name schema).ensures state).bind
  intro aliased? after _
  cases aliased? with
  | some aliased => exact ensures_pure trivial
  | none =>
      dsimp only
      split
      · exact ((yields_placeholderType enters schema).ensures after).bind
          fun _ _ _ => ensures_pure trivial
      · split
        · exact ensures_pure trivial
        · exact ((yields_optionalType enters _ _).ensures after).bind
            fun _ _ _ => ensures_pure trivial
        · next item isArray =>
            split
            · next items => exact ensures_throw (.arrayOfAmbiguousObjects (isArray ▸ items))
            · exact ((yields_optionalType enters _ _).ensures after).bind
                fun _ _ _ => ensures_pure trivial
        · next isAmbiguous => exact ensures_throw (.indeterminate isAmbiguous)
        · next isObject =>
            have fields : Ensures (objectFields context name schema) after (fun _ _ => True)
                fun problem _ => schema.Spoils name problem :=
              (objectFields_buildsUnlessEmpty enters name schema after).mono_fails
                fun _ _ empty => empty ▸ .emptyFields isObject
            exact fields.bind fun _ _ _ => ensures_pure trivial

/-- The shape of a schema rules out all problems but one. -/
theorem model_buildsUnlessEmpty (enters : unrestricted.Enters .any context) {schema : Schema}
    (notAmbiguous : schema.shape ≠ .ambiguousObject)
    (items : schema.shape.hasAmbiguousItems = false) (name : String) :
    BuildsUnlessEmpty (model context name schema) name := by
  intro state
  apply (ensures_model enters name schema state).mono_fails
  intro problem after spoils
  cases spoils with
  | emptyFields => rfl
  | indeterminate isAmbiguous => exact absurd isAmbiguous notAmbiguous
  | arrayOfAmbiguousObjects ambiguous =>
      rw [items] at ambiguous
      contradiction

end Build

namespace Builder

open Build

/-- How everything that is built within a model comes out. A component within another one
is built like one outside of every type, as there is always room for it. Nothing fails but
objects and components, and those only for the lack of fields. -/
structure BuildsWithin (builder : Builder) : Prop where
  entered {component : Component} (isOf : component.IsOf builder.document.component?)
    (state : BuildState) : builder.context.enter component state =
      ensureType component.typeName (some component.name) component.schema.description
        (componentFields builder.context component) state
  component {component : Component} (isOf : component.IsOf builder.document.component?) :
    BuildsUnlessEmpty (builder.context.enter component) component.typeName
  object (typeName : String) (schema : Schema) :
    BuildsUnlessEmpty (ensureType typeName none schema.description
      (objectFields builder.context typeName schema)) typeName
  field (parent key : String) (schema : Schema) :
    Yields (fieldType builder.context parent key schema) fun _ => True
  element (name : String) (schema : Schema) :
    Yields (elementType builder.context name schema) fun _ => True

theorem enters (builder : Builder) : BuildLaw.unrestricted.Enters .any builder.context :=
  BuildLaw.context_lawful fun _ => BuildLaw.unrestricted_holds _

private theorem enter_eq (builder : Builder) {component : Component}
    (isOf : component.IsOf builder.document.component?) (state : BuildState) :
    builder.context.enter component state =
      ensureType component.typeName (some component.name) component.schema.description
        (componentFields builder.context component) state :=
  enterWithin_eq_entry (fun _ => builder.typeName_mem_typeNames) isOf
    (builder.outside_typeNames_le state)

private theorem enter_buildsUnlessEmpty (builder : Builder) {component : Component}
    (isOf : component.IsOf builder.document.component?) :
    BuildsUnlessEmpty (builder.context.enter component) component.typeName := by
  intro state
  have fields := componentFields_buildsUnlessEmpty builder.enters component
  unfold Ensures
  rw [builder.enter_eq isOf]
  exact fields.ensureType state

theorem buildsWithin (builder : Builder) : builder.BuildsWithin where
  entered := builder.enter_eq
  component := builder.enter_buildsUnlessEmpty
  object typeName schema :=
    (objectFields_buildsUnlessEmpty builder.enters typeName schema).ensureType
  field := yields_fieldType builder.enters
  element := yields_elementType builder.enters

theorem operation_buildsUnlessEmpty (builder : Builder) {verb : Verb} {path : String}
    {part : Part} {found : PartSchema}
    (declared : builder.document.operationSchema verb path part = .ok (some found))
    (notAmbiguous : found.schema.shape ≠ .ambiguousObject)
    (items : found.schema.shape.hasAmbiguousItems = false) (name : String) :
    BuildsUnlessEmpty (builder.operation name verb path part) name := by
  rw [operation, declared]
  exact model_buildsUnlessEmpty builder.enters notAmbiguous items name

end Builder

end RestModel
