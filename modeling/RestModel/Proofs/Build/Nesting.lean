import RestModel.Proofs.Build.Steps
import RestModel.Proofs.Schema

/-! # Objects within schemas

A type is made from an object, whose properties it has fields for. Which objects there
are within a schema, and how the types made from them are named, can be told from the
schema and from the name of the place it stands in. -/

namespace RestModel

namespace Schema

/-- An object within a schema in a place, and the name of the type made from it. -/
inductive Nests : Schema → String → String → Schema → Prop where
  | self {schema : Schema} {name : String} (notRecursive : schema.recursive = false)
      (isObject : schema.shape = .object) : Nests schema name name schema
  | property {schema property object : Schema} {name key typeName : String}
      (notRecursive : schema.recursive = false) (isObject : schema.shape = .object)
      (member : (key, property) ∈ schema.properties)
      (nests : Nests property (name ++ Naming.camelCase key) typeName object) :
      Nests schema name typeName object
  | value {schema value object : Schema} {name typeName : String}
      (notRecursive : schema.recursive = false) (isRecord : schema.shape.isRecord = true)
      (described : value ∈ schema.additional)
      (nests : Nests value (name ++ "Value") typeName object) : Nests schema name typeName object
  | item {schema item object : Schema} {inner : Shape} {name typeName : String}
      (isArray : schema.shape = .array inner) (described : item ∈ schema.items)
      (nests : Nests item name typeName object) : Nests schema name typeName object

/-- An object within a type that is made from a schema, and the name of its own type. -/
inductive NestsWithin (schema : Schema) (name typeName : String) (object : Schema) : Prop where
  | property {key : String} {property : Schema} (member : (key, property) ∈ schema.properties)
      (nests : property.Nests (name ++ Naming.camelCase key) typeName object) :
      NestsWithin schema name typeName object
  | value {value : Schema} (described : value ∈ schema.additional)
      (nests : value.Nests (name ++ "Value") typeName object) :
      NestsWithin schema name typeName object

/-- A schema is an object, or an array or a map of nothing else, at any depth. -/
inductive Wraps : Schema → String → String → Schema → Prop where
  | self {schema : Schema} {name : String} (notRecursive : schema.recursive = false)
      (isObject : schema.shape = .object) : Wraps schema name name schema
  | value {schema value object : Schema} {name typeName : String} (isMap : schema.shape = .map)
      (described : value ∈ schema.additional)
      (wraps : Wraps value (name ++ "Value") typeName object) : Wraps schema name typeName object
  | item {schema item object : Schema} {inner : Shape} {name typeName : String}
      (isArray : schema.shape = .array inner) (described : item ∈ schema.items)
      (wraps : Wraps item name typeName object) : Wraps schema name typeName object

theorem NestsWithin.nests {schema object : Schema} {name typeName : String}
    (within : schema.NestsWithin name typeName object) (notRecursive : schema.recursive = false)
    (isObject : schema.shape = .object) : schema.Nests name typeName object := by
  cases within with
  | property member nests => exact .property notRecursive isObject member nests
  | value described nests =>
      exact .value notRecursive (by rw [isObject]; rfl) described nests

private theorem additional_isSome_of_map {schema : Schema} (isMap : schema.shape = .map) :
    schema.additional.isSome = true := by
  rw [shape_eq, shapeWith] at isMap
  grind

end Schema

/-- All fields stand for properties of a schema, and there is a type of all other
properties if the schema describes any. -/
structure FieldList.IsDrawnFrom (list : FieldList) (schema : Schema) : Prop where
  fields : ∀ field ∈ list.fields, field.sourceKey ∈ Keyed.keys schema.properties
  additional : list.additional.isSome = schema.additional.isSome

/-- A record type is made from a schema. -/
structure RecordType.IsMadeOf (type : RecordType) (schema : Schema) : Prop where
  drawn : FieldList.IsDrawnFrom ⟨type.fields, type.additional⟩ schema
  doc : type.doc = schema.description

namespace Build

variable {context : BuildContext} {typeName : String}

/-- What holds of every type that a property's field may get holds of the field. -/
theorem ensures_propertyFields {made : String × Schema → TypeRef → Prop} (required : List String) :
    ∀ (taken : List String) {properties : List (String × Schema)},
      (∀ entry ∈ properties, ∀ state, Ensures (fieldType context typeName entry.1 entry.2) state
        (fun type? _ => ∀ type ∈ type?, made entry type) fun _ _ => True) →
      ∀ state, Ensures (propertyFields context typeName required taken properties) state
        (fun fields _ => ∀ field ∈ fields, ∃ entry ∈ properties,
          field.sourceKey = entry.1 ∧ made entry field.type) fun _ _ => True
  | _, [], _, _ => nofun
  | taken, (key, property) :: rest, makes, state => by
      have others := fun taken => ensures_propertyFields required taken
        fun entry member => makes entry (List.mem_cons_of_mem _ member)
      have later {fields : List Field}
          (ofRest : ∀ field ∈ fields, ∃ entry ∈ rest,
            field.sourceKey = entry.1 ∧ made entry field.type) :
          ∀ field ∈ fields, ∃ entry ∈ (key, property) :: rest,
            field.sourceKey = entry.1 ∧ made entry field.type := by
        intro field isField
        rcases ofRest field isField with ⟨entry, member, of⟩
        exact ⟨entry, List.mem_cons_of_mem _ member, of⟩
      rw [propertyFields_cons]
      apply (makes (key, property) List.mem_cons_self state).bind
      intro type? after isMade
      cases type? with
      | none => exact (others taken after).mono (fun _ _ => later) fun _ _ => id
      | some type =>
          apply (others _ after).bind
          intro fields last ofRest
          apply ensures_pure
          intro field isField
          rcases List.mem_cons.mp isField with rfl | isField
          · exact ⟨(key, property), List.mem_cons_self, rfl, isMade type rfl⟩
          · exact later ofRest field isField

/-- The fields of an object are those of its properties, whatever their order, and there
is a type of all other properties if the object describes any. -/
theorem ensures_objectFields {made : String × Schema → TypeRef → Prop} {schema : Schema}
    (makes : ∀ entry ∈ schema.properties, ∀ state,
      Ensures (fieldType context typeName entry.1 entry.2) state
        (fun type? _ => ∀ type ∈ type?, made entry type) fun _ _ => True) (state : BuildState) :
    Ensures (objectFields context typeName schema) state (fun list _ =>
      (∀ field ∈ list.fields, ∃ entry ∈ schema.properties,
        field.sourceKey = entry.1 ∧ made entry field.type) ∧
      list.additional.isSome = schema.additional.isSome) fun _ _ => True := by
  unfold objectFields
  apply ensures_fieldList
  apply (ensures_propertyFields _ [] makes state).mono
  · intro fields after ofProperties
    have sorted : ∀ field ∈ Field.sort fields, ∃ entry ∈ schema.properties,
        field.sourceKey = entry.1 ∧ made entry field.type :=
      fun field isField => ofProperties field (List.mem_mergeSort.mp isField)
    split
    · trivial
    · split
      · next undescribed => exact ⟨sorted, by simp [undescribed]⟩
      · next described =>
          have isSome := Option.isSome_iff_ne_none.mpr described
          exact ensures_of_forall _ after fun _ _ => ⟨sorted, isSome.symm⟩
  · exact fun _ _ => id

theorem objectFields_drawn (context : BuildContext) (typeName : String) (schema : Schema)
    (state : BuildState) : Ensures (objectFields context typeName schema) state
      (fun list _ => list.IsDrawnFrom schema) fun _ _ => True := by
  have anything (entry : String × Schema) (state : BuildState) :
      Ensures (fieldType context typeName entry.1 entry.2) state
        (fun type? _ => ∀ type ∈ type?, True) fun _ _ => True :=
    ensures_of_forall _ state fun _ _ _ _ => trivial
  apply (ensures_objectFields (fun entry _ => anything entry) state).mono
  · rintro list after ⟨ofProperties, additional⟩
    refine ⟨?_, additional⟩
    intro field isField
    rcases ofProperties field isField with ⟨entry, member, isKey, -⟩
    exact isKey ▸ List.mem_map_of_mem member
  · exact fun _ _ => id

theorem componentFields_drawn (context : BuildContext) (component : Component)
    (state : BuildState) : Ensures (componentFields context component) state
      (fun list _ => list.IsDrawnFrom component.schema) fun _ _ => True := by
  unfold componentFields
  split
  · next isMap =>
      have described := Schema.additional_isSome_of_map isMap
      exact (ensures_of_forall _ state fun _ _ => trivial).bind fun _ _ _ =>
        ensures_pure ⟨nofun, described.symm⟩
  · exact objectFields_drawn context component.typeName component.schema state

end Build

end RestModel
