import RestModel.Document.Basic
import RestModel.Model.Component

/-! # Building models

A model is built from a resolved schema. Nested objects become record types
with names of their own, made from the name of the type they are nested in and
the key of their property. A type that is being built may be mentioned within
itself.

Building a component starts from its schema resolved on its own, which may be
larger than the place that refers to it. But a component is not entered while it
is being built, so no more components are entered within each other than there
are; everything else goes down into a schema. -/

namespace RestModel

inductive BuildError where
  | schemaNotFound (verb : Verb) (path : String)
  | indeterminate (typeName : String)
  | arrayOfAmbiguousObjects (typeName : String)
  | emptyFields (typeName : String)
  deriving Repr, DecidableEq, Inhabited

def BuildError.message : BuildError → String
  | .schemaNotFound verb path => "no schema found for " ++ verb.route path
  | .indeterminate typeName =>
      "schema for `" ++ typeName ++ "` is an object without properties or value schema"
  | .arrayOfAmbiguousObjects typeName =>
      "schema for `" ++ typeName ++ "` is an array of objects without properties"
  | .emptyFields typeName =>
      "every property of `" ++ typeName ++ "` was skipped; no fields remain"

inductive OmissionReason where
  | ambiguousObject
  | arrayOfAmbiguousObjects
  /-- No property of a nested object has a field. -/
  | emptyFields
  deriving Repr, DecidableEq, Inhabited

structure OmittedProperty where
  typeName : String
  property : String
  reason : OmissionReason
  deriving Repr, DecidableEq, Inhabited

structure BuildState where
  types : TypeTable
  mentions : List ComponentMention
  /-- The types that are being built, innermost first. -/
  building : List String
  /-- The properties without fields, in the order in which they were met. -/
  omitted : List OmittedProperty
  deriving Repr, DecidableEq, Inhabited

namespace BuildState

def empty : BuildState := ⟨[], [], [], []⟩

/-- Whether a type is built or being built. -/
def knows (state : BuildState) (typeName : String) : Bool :=
  Keyed.contains typeName state.types || state.building.contains typeName

def enclose (state : BuildState) (typeName : String) : BuildState :=
  { state with building := typeName :: state.building }

def release (state : BuildState) (typeName : String) : BuildState :=
  { state with building := state.building.erase typeName }

/-- Add a type, unless there is one of its name. -/
def register (state : BuildState) (type : RecordType) : BuildState :=
  { state with types := TypeTable.register state.types type }

/-- Note that a place mentions a component, unless the place mentions one. -/
def mention (state : BuildState) (mention : ComponentMention) : BuildState :=
  { state with mentions := ComponentMention.record state.mentions mention }

def leaveOut (state : BuildState) (omitted : OmittedProperty) : BuildState :=
  { state with omitted := state.omitted ++ [omitted] }

def takeOmitted (state : BuildState) : List OmittedProperty × BuildState :=
  (state.omitted, { state with omitted := [] })

end BuildState

/-- A step of building. What was built stays, also when the step fails. -/
abbrev Build (α : Type) := EStateM BuildError BuildState α

structure BuildContext where
  aliasing : Bool
  /-- The schema of a component, resolved on its own. -/
  resolve? : String → Option Schema
  enter : Component → Build Unit

def BuildContext.sharedComponent? (context : BuildContext) (schema : Schema) :
    Option ComponentMatch :=
  if context.aliasing then ComponentMatch.ofSchema? context.resolve? schema else none

namespace Build

/-- Whether a step succeeds; what it built stays in either case. -/
def succeeds (step : Build Unit) : Build Bool := fun state =>
  match step state with
  | .ok _ state => .ok true state
  | .error _ state => .ok false state

def leaveOut (typeName property : String) (reason : OmissionReason) : Build Unit :=
  modify (·.leaveOut ⟨typeName, property, reason⟩)

def recordMention (mention : ComponentMention) : Build Unit :=
  modify (·.mention mention)

def isKnown (typeName : String) : Build Bool :=
  return (← get).knows typeName

def within (typeName : String) (step : Build α) : Build α := fun state =>
  match step (state.enclose typeName) with
  | .ok value state => .ok value (state.release typeName)
  | .error problem state => .error problem (state.release typeName)

/-- Build a record type, unless it is built or being built. -/
def ensureType (typeName : String) (component doc : Option String) (body : Build FieldList) :
    Build Unit := do
  if ← isKnown typeName then
    return
  let list ← within typeName body
  modify (·.register ⟨typeName, list.fields, list.additional, component, doc⟩)

/-- Mention the component that a schema refers to at a place, if its type can be
shared and built. -/
def alias? (context : BuildContext) (target : String) (schema : Schema) :
    Build (Option TypeRef) :=
  match context.sharedComponent? schema with
  | none => return none
  | some found => do
      if ← succeeds (context.enter found.component) then
        recordMention (found.mention target)
        return some found.typeRef
      else
        return none

/-- The type of a component in a place within itself. -/
def placeholderType (context : BuildContext) (schema : Schema) : Build TypeRef :=
  match schema.reference with
  | none => return .any
  | some name => do
      if ← isKnown (Naming.camelCase name) then
        return .named (Naming.camelCase name)
      else
        match Component.ofName? context.resolve? name with
        | none => return .any
        | some component =>
            if ← succeeds (context.enter component) then
              return .named (Naming.camelCase name)
            else
              return .any

/-- The fields of an object, given the steps that build its properties and the
type of all other ones. An object with properties has a field. -/
def fieldList (typeName : String) (schema : Schema) (properties : Build (List Field))
    (additional : Build TypeRef) : Build FieldList := do
  let fields ← properties
  if fields.isEmpty && !schema.properties.isEmpty then
    throw (.emptyFields typeName)
  else if schema.additional.isSome then
    return ⟨Field.sort fields, some (← additional)⟩
  else
    return ⟨Field.sort fields, none⟩

/-- Name the types of properties. Names are distinct within a type. -/
def nameField (required : List String) (taken : List String) (key : String)
    (property : Schema) (type : TypeRef) : Field × List String :=
  let (name, taken) := Naming.takeName taken (Naming.fieldName key)
  (⟨name, type, key, required.contains (Naming.normalKey key), property.description⟩, taken)

/-- Build a nested object, where `onEmpty` says what becomes of one without
fields. -/
def nestedObject (step : Build Unit) (onEmpty onBuilt : Build α) : Build α := fun state =>
  match step state with
  | .ok _ state => onBuilt state
  | .error (.emptyFields _) state => onEmpty state
  | .error problem state => .error problem state

mutual
/-- Build the fields of properties, after the fields with the names `taken`. -/
def propertyFields (context : BuildContext) (typeName : String) (required : List String)
    (taken : List String) :
    List (String × Schema) → Build (List Field)
  | [] => return []
  | (key, property) :: rest => do
      match ← fieldType context typeName key property with
      | none => propertyFields context typeName required taken rest
      | some type =>
          let (field, taken) := nameField required taken key property type
          let others ← propertyFields context typeName required taken rest
          return field :: others
termination_by structural properties => properties

/-- Build the type of a property's field, unless the property is left out. -/
def fieldType (context : BuildContext) (parent key : String) : Schema → Build (Option TypeRef)
  | ⟨type, format, description, nullable, properties, required, items, additional, reference,
      recursive⟩ => do
      let schema : Schema := ⟨type, format, description, nullable, properties, required, items,
        additional, reference, recursive⟩
      let target := parent ++ "." ++ Naming.fieldName key
      if let some aliased ← alias? context target schema then
        return some (.wrapped aliased)
      if recursive then
        return some (.wrapped (← placeholderType context schema))
      let nested := parent ++ Naming.camelCase key
      match schema.shape with
      | .primitive => return some (.ofPrimitive schema)
      | .map =>
          return some (.map (← optionalType context (nested ++ "Value") additional))
      | .array item =>
          if (Shape.array item).hasAmbiguousItems then
            leaveOut parent key .arrayOfAmbiguousObjects
            return none
          else
            return some (.wrapped (.array (← optionalType context nested items)))
      | .ambiguousObject =>
          leaveOut parent key .ambiguousObject
          return none
      | .object =>
          nestedObject
            (ensureType nested none description
              (fieldList nested schema
                (propertyFields context nested (required.map Naming.normalKey) [] properties)
                (optionalType context (nested ++ "Value") additional)))
            (do leaveOut parent key .emptyFields
                return none)
            (return some (.wrapped (.named nested)))

/-- Build the type of items or values. It is never wrapped, and objects about
which nothing is known are any values. -/
def elementType (context : BuildContext) (name : String) : Schema → Build TypeRef
  | ⟨type, format, description, nullable, properties, required, items, additional, reference,
      recursive⟩ => do
      let schema : Schema := ⟨type, format, description, nullable, properties, required, items,
        additional, reference, recursive⟩
      if recursive then
        return ← placeholderType context schema
      match schema.shape with
      | .primitive => return .ofPrimitive schema
      | .map => return .map (← optionalType context (name ++ "Value") additional)
      | .array _ => return .array (← optionalType context name items)
      | .ambiguousObject => return .any
      | .object =>
          nestedObject
            (ensureType name none description
              (fieldList name schema
                (propertyFields context name (required.map Naming.normalKey) [] properties)
                (optionalType context (name ++ "Value") additional)))
            (return .any)
            (return .named name)

def optionalType (context : BuildContext) (name : String) : Option Schema → Build TypeRef
  | none => return .any
  | some schema => elementType context name schema
end

def objectFields (context : BuildContext) (typeName : String) (schema : Schema) :
    Build FieldList :=
  fieldList typeName schema
    (propertyFields context typeName (schema.required.map Naming.normalKey) [] schema.properties)
    (optionalType context (typeName ++ "Value") schema.additional)

def componentFields (context : BuildContext) (component : Component) : Build FieldList :=
  if component.schema.shape = .map then do
    let value ← optionalType context (component.typeName ++ "Value") component.schema.additional
    return ⟨[], some value⟩
  else
    objectFields context component.typeName component.schema

def model (context : BuildContext) (name : String) (schema : Schema) : Build TypeBody := do
  if let some target ← alias? context name schema then
    return .alias target
  if schema.recursive then
    return .alias (← placeholderType context schema)
  match schema.shape with
  | .primitive => return .alias (.ofPrimitive schema)
  | .map =>
      return .alias (.map (← optionalType context (name ++ "Value") schema.additional))
  | .array item =>
      if (Shape.array item).hasAmbiguousItems then
        throw (.arrayOfAmbiguousObjects name)
      else
        return .alias (.array (← optionalType context (name ++ "Item") schema.items))
  | .ambiguousObject => throw (.indeterminate name)
  | .object => return .fields (← objectFields context name schema)

/-- Build the type of a component, where no more than `room` components are
entered within each other. -/
def enterWithin (aliasing : Bool) (resolve? : String → Option Schema) :
    (room : Nat) → Component → Build Unit
  | room, component =>
      ensureType component.typeName (some component.name) component.schema.description
        (match room with
        | 0 => throw (.indeterminate component.typeName)
        | room + 1 =>
            componentFields ⟨aliasing, resolve?, enterWithin aliasing resolve? room⟩ component)

end Build

structure Builder where
  document : Document
  aliasing : Bool

namespace Builder

def context (builder : Builder) : BuildContext where
  aliasing := builder.aliasing
  resolve? := builder.document.component?
  enter := Build.enterWithin builder.aliasing builder.document.component?
    builder.document.components.length

def model (builder : Builder) (name : String) (schema : Schema) : Build TypeBody :=
  Build.model builder.context name schema

def operation (builder : Builder) (name : String) (verb : Verb) (path : String) (part : Part) :
    Build TypeBody :=
  match builder.document.operationSchema verb path part with
  | .ok (some found) => builder.model name found.schema
  | _ => throw (.schemaNotFound verb path)

end Builder

/-- The scalar properties of a schema as optional fields, to search by. -/
def searchFields (schema : Schema) : List Field :=
  let scalar := schema.properties.filter fun (_, property) => property.isScalar
  let names := (Naming.takeNames [] (scalar.map fun (key, _) => Naming.fieldName key)).1
  Field.sort ((scalar.zip names).map fun ((key, property), name) =>
    ⟨name, .ofPrimitive property, key, false, property.description⟩)

end RestModel
