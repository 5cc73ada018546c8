import RestModel.Proofs.Build.Growth
import RestModel.Proofs.Build.Nesting
import RestModel.Proofs.Component

/-! # Properties of all steps of building

Everything that is built is put together from few kinds of steps. A property that
holds of those, and of what they are put together to, holds of building any schema
and any component. Types are built for objects in some places only, and components are
mentioned only where a field of the type in question is. -/

namespace RestModel

namespace Build

/-- A step that depends on how components are entered. -/
abbrev Entering (α : Type) := (Component → Build Unit) → Build α

/-- Types are built for objects in all places. -/
def anywhere (_typeName : String) (_object : Schema) : Prop := True

/-- Components are mentioned in all places. -/
def everywhere (_target : String) : Prop := True

/-- Where a component is mentioned that the property of a key refers to. -/
def fieldTarget (typeName key : String) : String := typeName ++ "." ++ Naming.fieldName key

/-- Components are mentioned by the fields of one type. -/
def IsFieldTarget (typeName target : String) : Prop := ∃ key, target = fieldTarget typeName key

/-- A property of steps holds of the simplest ones, of entering a component of the
description, and of whatever steps that have it are put together to, where types are
built in some places only. The property may depend on where components are mentioned: the
steps that build a type mention them by the fields of that type, whatever the steps around
them do. -/
structure Composes (aliasing : Bool) (resolve? : String → Option Schema)
    (places : String → Schema → Prop)
    (property : {α : Type} → (targets : String → Prop) → Entering α → Prop) : Prop where
  pure {targets : String → Prop} {α : Type} (value : α) :
    property targets fun _ => (Pure.pure value : Build α)
  throw {targets : String → Prop} {α : Type} (problem : BuildError) :
    property targets fun _ => (MonadExcept.throw problem : Build α)
  isKnown {targets : String → Prop} (typeName : String) :
    property targets fun _ => isKnown typeName
  leaveOut {targets : String → Prop} (typeName key : String) (reason : OmissionReason) :
    property targets fun _ => leaveOut typeName key reason
  recordMention {targets : String → Prop} {mention : ComponentMention} :
    targets mention.target → property targets fun _ => recordMention mention
  enter {targets : String → Prop} {component : Component} : component.IsOf resolve? →
    property targets fun enter => enter component
  bind {targets : String → Prop} {α β : Type} {first : Entering β} {next : β → Entering α} :
    property targets first → (∀ value, property targets (next value)) →
    property targets fun enter => first enter >>= fun value => next value enter
  succeeds {targets : String → Prop} {step : Entering Unit} : property targets step →
    property targets fun enter => succeeds (step enter)
  ensureType {targets : String → Prop} {typeName : String} {schema : Schema} :
    places typeName schema →
    (property (IsFieldTarget typeName) fun enter =>
      objectFields ⟨aliasing, resolve?, enter⟩ typeName schema) →
    property targets fun enter => ensureType typeName none schema.description
      (objectFields ⟨aliasing, resolve?, enter⟩ typeName schema)
  nestedObject {targets : String → Prop} {α : Type} {step : Entering Unit}
    {onEmpty onBuilt : Build α} : property targets step → (property targets fun _ => onEmpty) →
    (property targets fun _ => onBuilt) →
    property targets fun enter => nestedObject (step enter) onEmpty onBuilt

variable {aliasing : Bool} {resolve? : String → Option Schema}
  {places : String → Schema → Prop}
  {property : {α : Type} → (targets : String → Prop) → Entering α → Prop}
  {targets : String → Prop}

namespace Composes

variable (composes : Composes aliasing resolve? places property)

include composes

theorem alias? {target : String} (isTarget : targets target) (schema : Schema) :
    property targets fun enter => alias? ⟨aliasing, resolve?, enter⟩ target schema := by
  simp only [Build.alias?, BuildContext.sharedComponent?]
  cases isFound : if aliasing = true then ComponentMatch.ofSchema? resolve? schema else none with
  | none => exact composes.pure none
  | some found =>
      split at isFound
      · have isOf := ComponentMatch.isOf_of_ofSchema? isFound
        apply composes.bind (composes.succeeds (composes.enter isOf))
        intro answer
        cases answer with
        | false => exact composes.pure none
        | true => exact composes.bind (composes.recordMention isTarget) fun _ => composes.pure _
      · contradiction

theorem placeholderType (schema : Schema) :
    property targets fun enter => placeholderType ⟨aliasing, resolve?, enter⟩ schema := by
  simp only [Build.placeholderType]
  cases schema.reference with
  | none => exact composes.pure _
  | some name =>
      apply composes.bind (composes.isKnown _)
      intro known
      cases known with
      | true => exact composes.pure _
      | false =>
          simp only [Bool.false_eq_true, if_false]
          cases isComponent : Component.ofName? resolve? name with
          | none => exact composes.pure _
          | some component =>
              have isOf := Component.isOf_of_ofName? isComponent
              apply composes.bind (composes.succeeds (composes.enter isOf))
              intro answer
              cases answer with
              | false => exact composes.pure _
              | true => exact composes.pure _

theorem fieldList {typeName : String} {schema : Schema} {properties : Entering (List Field)}
    {additional : Entering TypeRef} (fields : property targets properties)
    (rest : property targets additional) :
    property targets fun enter =>
      fieldList typeName schema (properties enter) (additional enter) := by
  apply composes.bind fields
  intro built
  split
  · exact composes.throw _
  · split
    · exact composes.bind rest fun _ => composes.pure _
    · exact composes.pure _

theorem propertyFields {typeName : String} (required : List String) :
    ∀ (taken : List String) {properties : List (String × Schema)},
      (∀ entry ∈ properties, property targets fun enter =>
        fieldType ⟨aliasing, resolve?, enter⟩ typeName entry.1 entry.2) →
      property targets fun enter =>
        propertyFields ⟨aliasing, resolve?, enter⟩ typeName required taken properties
  | _, [], _ => composes.pure []
  | taken, (key, schema) :: rest, made => by
      have others := fun taken => propertyFields required taken
        fun entry member => made entry (List.mem_cons_of_mem _ member)
      simp only [propertyFields_cons]
      apply composes.bind (made (key, schema) List.mem_cons_self)
      intro type?
      cases type? with
      | none => exact others taken
      | some type => exact composes.bind (others _) fun _ => composes.pure _

private theorem optionalType_of {name : String} {schema? : Option Schema}
    (made : ∀ schema ∈ schema?, property targets fun enter =>
      elementType ⟨aliasing, resolve?, enter⟩ name schema) :
    property targets fun enter => optionalType ⟨aliasing, resolve?, enter⟩ name schema? := by
  cases schema? with
  | none => exact composes.pure _
  | some schema => exact made schema rfl

omit composes in
/-- A property holds of the steps that build a field, an item or a value from a schema,
where the objects in it are in places that types are built for. -/
structure Along (aliasing : Bool) (resolve? : String → Option Schema)
    (places : String → Schema → Prop)
    (property : {α : Type} → (targets : String → Prop) → Entering α → Prop)
    (schema : Schema) : Prop where
  field {targets : String → Prop} {parent key : String} : targets (fieldTarget parent key) →
    (∀ typeName object, schema.Nests (parent ++ Naming.camelCase key) typeName object →
      places typeName object) →
    property targets fun enter => fieldType ⟨aliasing, resolve?, enter⟩ parent key schema
  element {targets : String → Prop} (name : String) :
    (∀ typeName object, schema.Nests name typeName object → places typeName object) →
    property targets fun enter => elementType ⟨aliasing, resolve?, enter⟩ name schema

private theorem objectFields_of {schema : Schema} {typeName : String}
    (areTargets : ∀ key, targets (fieldTarget typeName key))
    (within : ∀ inner object, schema.NestsWithin typeName inner object → places inner object)
    (properties : ∀ entry ∈ schema.properties, Along aliasing resolve? places property entry.2)
    (additional : ∀ value ∈ schema.additional, Along aliasing resolve? places property value) :
    property targets fun enter => objectFields ⟨aliasing, resolve?, enter⟩ typeName schema := by
  apply composes.fieldList
  · apply composes.propertyFields
    intro entry member
    exact (properties entry member).field (areTargets _) fun _ _ nests =>
      within _ _ (.property member nests)
  · apply composes.optionalType_of
    intro value described
    exact (additional value described).element _ fun _ _ nests =>
      within _ _ (.value described nests)

/-- A nested object is built with all the objects within it. -/
theorem nestedObject_of {schema : Schema} {name : String} {onEmpty onBuilt : Build α}
    (notRecursive : schema.recursive = false) (isObject : schema.shape = .object)
    (nested : ∀ typeName object, schema.Nests name typeName object → places typeName object)
    (properties : ∀ entry ∈ schema.properties, Along aliasing resolve? places property entry.2)
    (additional : ∀ value ∈ schema.additional, Along aliasing resolve? places property value)
    (empty : property targets fun _ => onEmpty) (built : property targets fun _ => onBuilt) :
    property targets fun enter => Build.nestedObject
      (Build.ensureType name none schema.description
        (objectFields ⟨aliasing, resolve?, enter⟩ name schema)) onEmpty onBuilt := by
  have own : places name schema := nested _ _ (.self notRecursive isObject)
  have within : ∀ inner object, schema.NestsWithin name inner object → places inner object :=
    fun _ _ within => nested _ _ (within.nests notRecursive isObject)
  have fields : property (IsFieldTarget name) fun enter =>
      objectFields ⟨aliasing, resolve?, enter⟩ name schema :=
    composes.objectFields_of (fun key => ⟨key, rfl⟩) within properties additional
  exact composes.nestedObject (composes.ensureType own fields) empty built

private theorem fieldType_of {schema : Schema} {parent key : String}
    (isTarget : targets (fieldTarget parent key))
    (nested : ∀ typeName object, schema.Nests (parent ++ Naming.camelCase key) typeName object →
      places typeName object)
    (properties : ∀ entry ∈ schema.properties, Along aliasing resolve? places property entry.2)
    (items : ∀ item ∈ schema.items, Along aliasing resolve? places property item)
    (additional : ∀ value ∈ schema.additional, Along aliasing resolve? places property value) :
    property targets fun enter => fieldType ⟨aliasing, resolve?, enter⟩ parent key schema := by
  have leftOut (reason : OmissionReason) : property targets fun _ => do
      Build.leaveOut parent key reason
      return (none : Option TypeRef) :=
    composes.bind (composes.leaveOut _ _ _) fun _ => composes.pure _
  simp only [fieldType_eq]
  apply composes.bind (composes.alias? isTarget schema)
  intro aliased?
  cases aliased? with
  | some aliased => exact composes.pure _
  | none =>
      dsimp only
      split
      · exact composes.bind (composes.placeholderType schema) fun _ => composes.pure _
      · next recursive =>
          have notRecursive : schema.recursive = false := by simpa using recursive
          cases shape : schema.shape with
          | primitive => exact composes.pure _
          | map =>
              apply composes.bind
              · apply composes.optionalType_of
                intro value described
                exact (additional value described).element _ fun _ _ nests =>
                  nested _ _ (.value notRecursive (by rw [shape]; rfl) described nests)
              · exact fun _ => composes.pure _
          | array inner =>
              dsimp only
              split
              · exact leftOut _
              · apply composes.bind
                · apply composes.optionalType_of
                  intro item described
                  exact (items item described).element _ fun _ _ nests =>
                    nested _ _ (.item shape described nests)
                · exact fun _ => composes.pure _
          | ambiguousObject => exact leftOut _
          | object =>
              exact composes.nestedObject_of notRecursive shape nested properties additional
                (leftOut _) (composes.pure _)

private theorem elementType_of {schema : Schema} (name : String)
    (nested : ∀ typeName object, schema.Nests name typeName object → places typeName object)
    (properties : ∀ entry ∈ schema.properties, Along aliasing resolve? places property entry.2)
    (items : ∀ item ∈ schema.items, Along aliasing resolve? places property item)
    (additional : ∀ value ∈ schema.additional, Along aliasing resolve? places property value) :
    property targets fun enter => elementType ⟨aliasing, resolve?, enter⟩ name schema := by
  simp only [elementType_eq]
  split
  · exact composes.placeholderType schema
  · next recursive =>
      have notRecursive : schema.recursive = false := by simpa using recursive
      cases shape : schema.shape with
      | primitive => exact composes.pure _
      | map =>
          apply composes.bind
          · apply composes.optionalType_of
            intro value described
            exact (additional value described).element _ fun _ _ nests =>
              nested _ _ (.value notRecursive (by rw [shape]; rfl) described nests)
          · exact fun _ => composes.pure _
      | array inner =>
          apply composes.bind
          · apply composes.optionalType_of
            intro item described
            exact (items item described).element _ fun _ _ nests =>
              nested _ _ (.item shape described nests)
          · exact fun _ => composes.pure _
      | ambiguousObject => exact composes.pure _
      | object =>
          exact composes.nestedObject_of notRecursive shape nested properties additional
            (composes.pure _) (composes.pure _)

theorem along (schema : Schema) : Along aliasing resolve? places property schema := by
  induction schema using Schema.parts_induction with
  | step schema properties items additional =>
      exact ⟨fun isTarget nested =>
          composes.fieldType_of isTarget nested properties items additional,
        fun name nested => composes.elementType_of name nested properties items additional⟩

theorem optionalType {name : String} {schema? : Option Schema}
    (nested : ∀ schema ∈ schema?, ∀ typeName object, schema.Nests name typeName object →
      places typeName object) :
    property targets fun enter => optionalType ⟨aliasing, resolve?, enter⟩ name schema? :=
  composes.optionalType_of fun schema described =>
    (composes.along schema).element name (nested schema described)

theorem objectFields {typeName : String} {schema : Schema}
    (areTargets : ∀ key, targets (fieldTarget typeName key))
    (within : ∀ inner object, schema.NestsWithin typeName inner object → places inner object) :
    property targets fun enter => objectFields ⟨aliasing, resolve?, enter⟩ typeName schema :=
  composes.objectFields_of areTargets within (fun entry _ => composes.along entry.2)
    fun value _ => composes.along value

theorem componentFields_of {component : Component}
    (areTargets : ∀ key, targets (fieldTarget component.typeName key))
    (within : ∀ inner object,
      component.schema.NestsWithin component.typeName inner object → places inner object) :
    property targets fun enter => componentFields ⟨aliasing, resolve?, enter⟩ component := by
  simp only [Build.componentFields]
  split
  · apply composes.bind
    · exact composes.optionalType fun value described _ _ nests =>
        within _ _ (.value described nests)
    · exact fun _ => composes.pure _
  · exact composes.objectFields areTargets within

private theorem model_of {name : String} {schema : Schema} (isTarget : targets name)
    (areTargets : ∀ key, targets (fieldTarget name key))
    (within : ∀ typeName object, schema.NestsWithin name typeName object → places typeName object)
    (items : ∀ item ∈ schema.items, ∀ typeName object,
      item.Nests (name ++ "Item") typeName object → places typeName object) :
    property targets fun enter => model ⟨aliasing, resolve?, enter⟩ name schema := by
  simp only [Build.model]
  apply composes.bind (composes.alias? isTarget schema)
  intro aliased?
  cases aliased? with
  | some aliased => exact composes.pure _
  | none =>
      dsimp only
      split
      · exact composes.bind (composes.placeholderType schema) fun _ => composes.pure _
      · cases schema.shape with
        | primitive => exact composes.pure _
        | map =>
            apply composes.bind
            · exact composes.optionalType fun value described _ _ nests =>
                within _ _ (.value described nests)
            · exact fun _ => composes.pure _
        | array item =>
            dsimp only
            split
            · exact composes.throw _
            · exact composes.bind (composes.optionalType items) fun _ => composes.pure _
        | ambiguousObject => exact composes.throw _
        | object =>
            exact composes.bind (composes.objectFields areTargets within) fun _ =>
              composes.pure _

end Composes

theorem isEverywhere (target : String) : everywhere target := trivial

namespace Composes

variable (composes : Composes aliasing resolve? anywhere property)

include composes

theorem componentFields (component : Component) :
    property everywhere fun enter => componentFields ⟨aliasing, resolve?, enter⟩ component :=
  composes.componentFields_of (fun _ => isEverywhere _) fun _ _ _ => trivial

theorem model (name : String) (schema : Schema) :
    property everywhere fun enter => model ⟨aliasing, resolve?, enter⟩ name schema :=
  composes.model_of (isEverywhere _) (fun _ => isEverywhere _) (fun _ _ _ => trivial)
    fun _ _ _ _ _ => trivial

end Composes

/-- A property of steps holds of entering a component with any room, if it is passed on from
the body of a type to the type, and from entering components to the steps that enter them. -/
theorem enterWithin_of_composes {holds : {α : Type} → Build α → Prop}
    (fails : ∀ problem, holds (throw problem : Build FieldList))
    (types : ∀ {typeName : String} {component doc : Option String} {body : Build FieldList},
      holds body → holds (ensureType typeName component doc body))
    (composes : ∀ {enter : Component → Build Unit}, (∀ component, holds (enter component)) →
      Composes aliasing resolve? anywhere fun _ step => holds (step enter))
    (room : Nat) (component : Component) :
    holds (enterWithin aliasing resolve? room component) := by
  induction room generalizing component with
  | zero =>
      unfold enterWithin
      exact types (fails _)
  | succ room induction =>
      unfold enterWithin
      exact types ((composes induction).componentFields component)

/-! ## Relations between states -/

/-- A step leads from any state to one that it is related to, whether it succeeds or fails. -/
def LeadsTo (relation : BuildState → BuildState → Prop) (step : Build α) : Prop :=
  ∀ state, Ensures step state (fun _ after => relation state after)
    fun _ after => relation state after

/-- A relation of the state before some steps to the one after them holds of the simplest
steps. It may depend on where components are mentioned. -/
structure IsProgress (relation : (targets : String → Prop) → BuildState → BuildState → Prop) :
    Prop where
  keeps {targets : String → Prop} {before after : BuildState} : before.Keeps after →
    relation targets before after
  mention {targets : String → Prop} {mention : ComponentMention} (state : BuildState) :
    targets mention.target → relation targets state (state.mention mention)
  trans {targets : String → Prop} {before middle after : BuildState} :
    relation targets before middle → relation targets middle after →
    relation targets before after

namespace IsProgress

variable {relation : (targets : String → Prop) → BuildState → BuildState → Prop}

theorem bind (progress : IsProgress relation) {first : Build β} {next : β → Build α}
    (leads : LeadsTo (relation targets) first)
    (others : ∀ value, LeadsTo (relation targets) (next value)) :
    LeadsTo (relation targets) (first >>= next) := by
  intro state
  apply (leads state).bind
  intro value middle related
  exact (others value middle).mono (fun _ _ => progress.trans related)
    fun _ _ => progress.trans related

theorem nestedObject (progress : IsProgress relation) {step : Build Unit}
    {onEmpty onBuilt : Build α} (leads : LeadsTo (relation targets) step)
    (empty : LeadsTo (relation targets) onEmpty) (built : LeadsTo (relation targets) onBuilt) :
    LeadsTo (relation targets) (nestedObject step onEmpty onBuilt) := by
  intro state
  apply Ensures.nestedObject
  apply (leads state).mono
  · intro _ after related
    exact (built after).mono (fun _ _ => progress.trans related)
      fun _ _ => progress.trans related
  · intro _ after related
    exact ⟨related, (empty after).mono (fun _ _ => progress.trans related)
      fun _ _ => progress.trans related⟩

/-- What is left to show of a relation is that the types in some places, and components, lead
to related states if their fields do. -/
theorem composes (progress : IsProgress relation) {enter : Component → Build Unit}
    (enters : ∀ {component : Component} (targets : String → Prop), component.IsOf resolve? →
      LeadsTo (relation targets) (enter component))
    (types : ∀ (targets : String → Prop) {typeName : String} {schema : Schema},
      places typeName schema →
      LeadsTo (relation (IsFieldTarget typeName))
        (objectFields ⟨aliasing, resolve?, enter⟩ typeName schema) →
      LeadsTo (relation targets) (ensureType typeName none schema.description
        (objectFields ⟨aliasing, resolve?, enter⟩ typeName schema))) :
    Composes aliasing resolve? places fun targets step =>
      LeadsTo (relation targets) (step enter) where
  pure _ := fun state => progress.keeps (.refl state)
  throw _ := fun state => progress.keeps (.refl state)
  isKnown _ := fun state => progress.keeps (.refl state)
  leaveOut _ _ _ := fun state => progress.keeps (BuildState.keeps_leaveOut state _)
  recordMention isTarget := fun state => progress.mention state isTarget
  enter isOf := enters _ isOf
  bind := progress.bind
  succeeds leads := fun state => (leads state).succeeds
  ensureType isPlace := types _ isPlace
  nestedObject := progress.nestedObject

end IsProgress

end Build
end RestModel
