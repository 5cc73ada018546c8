import RestModel.Proofs.Component

/-! # The names of types

A type is named after the component that it is made from, or after the place of the
object that it is made from: by the name of the type or model around it and the key
of its property. So it can be read off a schema which names the objects in it may
get, whether or not types of components are shared. -/

namespace RestModel

namespace Schema

mutual
/-- The names of the types of a schema in a place, and of the objects in it. -/
def objectNames (name : String) : Schema → List String
  | ⟨type, format, description, nullable, properties, required, items, additional, reference,
      recursive⟩ =>
      if recursive then
        []
      else
        match Schema.shape ⟨type, format, description, nullable, properties, required, items,
            additional, reference, recursive⟩ with
        | .primitive | .ambiguousObject => []
        | .map => objectNamesOf (name ++ "Value") additional
        | .array _ => objectNamesOf name items
        | .object => name ::
            (propertyNames name properties ++ objectNamesOf (name ++ "Value") additional)

def propertyNames (name : String) : List (String × Schema) → List String
  | [] => []
  | (key, property) :: rest =>
      property.objectNames (name ++ Naming.camelCase key) ++ propertyNames name rest

def objectNamesOf (name : String) : Option Schema → List String
  | none => []
  | some schema => schema.objectNames name
end

/-- The names of the types of the objects within a type that is made from a schema. -/
def innerNames (typeName : String) (schema : Schema) : List String :=
  propertyNames typeName schema.properties ++
    objectNamesOf (typeName ++ "Value") schema.additional

/-- The names of the types of the objects within a model of a schema. -/
def modelNames (name : String) (schema : Schema) : List String :=
  if schema.recursive then
    []
  else
    match schema.shape with
    | .primitive | .ambiguousObject => []
    | .map | .object => schema.innerNames name
    | .array _ => objectNamesOf (name ++ "Item") schema.items

theorem objectNames_eq (name : String) (schema : Schema) :
    schema.objectNames name =
      if schema.recursive then
        []
      else
        match schema.shape with
        | .primitive | .ambiguousObject => []
        | .map => objectNamesOf (name ++ "Value") schema.additional
        | .array _ => objectNamesOf name schema.items
        | .object => name :: schema.innerNames name := by
  cases schema
  rfl

/-- The objects within an order are a request and, in its list of lines, the lines. -/
example :
    let text : Schema := { Schema.free with type := some .string }
    let object (properties : List (String × Schema)) : Schema :=
      { Schema.free with type := some .object, properties }
    let lines : Schema :=
      { Schema.free with type := some .array, items := some (object [("article", text)]) }
    (object [("request", object [("sender", text)]), ("lines", lines)]).modelNames "Order" =
      ["OrderRequest", "OrderLines"] := by
  decide +kernel

private theorem objectNames_subset_propertyNames {properties : List (String × Schema)}
    {entry : String × Schema} (member : entry ∈ properties) (name : String) :
    entry.2.objectNames (name ++ Naming.camelCase entry.1) ⊆ propertyNames name properties := by
  induction properties with
  | nil => contradiction
  | cons first rest induction =>
      rcases List.mem_cons.mp member with rfl | member
      · exact List.subset_append_left _ _
      · exact List.Subset.trans (induction member) (List.subset_append_right _ _)

theorem objectNames_subset_innerNames {schema : Schema} {entry : String × Schema}
    (member : entry ∈ schema.properties) (name : String) :
    entry.2.objectNames (name ++ Naming.camelCase entry.1) ⊆ schema.innerNames name :=
  List.Subset.trans (objectNames_subset_propertyNames member name)
    (List.subset_append_left _ _)

end Schema

/-- Which names types may get: those of some components, and some names of objects. -/
structure TypeNames where
  component : Component → Prop
  object : String → Prop

namespace TypeNames

/-- Types may get any name. -/
def any : TypeNames := ⟨fun _ => True, fun _ => True⟩

/-- A type is made from a component and named after it, or it is made from an object. -/
inductive Allows (names : TypeNames) : RecordType → Prop where
  | component {component : Component} (isComponent : names.component component)
      (list : FieldList) : names.Allows ⟨component.typeName, list.fields, list.additional,
        some component.name, component.schema.description⟩
  | object {name : String} (isObject : names.object name) (list : FieldList)
      (doc : Option String) : names.Allows ⟨name, list.fields, list.additional, none, doc⟩

/-- All of several names may be those of objects. -/
def Admits (names : TypeNames) (list : List String) : Prop := ∀ name ∈ list, names.object name

/-- The components of a description may have types, and so may the objects in them. -/
structure Covers (names : TypeNames) (resolve? : String → Option Schema) : Prop where
  component {component : Component} : component.IsOf resolve? → names.component component
  inner {component : Component} : names.component component →
    names.Admits (component.schema.innerNames component.typeName)

theorem any_admits (list : List String) : any.Admits list := fun _ _ => trivial

theorem any_covers (resolve? : String → Option Schema) : any.Covers resolve? :=
  ⟨fun _ => trivial, fun _ => any_admits _⟩

theorem Admits.of_subset {names : TypeNames} {list others : List String}
    (admits : names.Admits list) (subset : others ⊆ list) : names.Admits others :=
  fun name member => admits name (subset member)

end TypeNames

end RestModel
