import RestModel.Keyed

/-! # Schemas

A schema describes a value: its type, its properties, its items. References and
compositions are resolved; all that is left of a reference is the name of the
component it stands for. -/

namespace RestModel

inductive SchemaType where
  | string
  | integer
  | number
  | boolean
  | object
  | array
  deriving Repr, DecidableEq, Inhabited

namespace SchemaType

def name : SchemaType → String
  | .string => "string"
  | .integer => "integer"
  | .number => "number"
  | .boolean => "boolean"
  | .object => "object"
  | .array => "array"

def ofName? : String → Option SchemaType
  | "string" => some .string
  | "integer" => some .integer
  | "number" => some .number
  | "boolean" => some .boolean
  | "object" => some .object
  | "array" => some .array
  | _ => none

def isScalar : SchemaType → Bool
  | .string | .integer | .number | .boolean => true
  | .object | .array => false

end SchemaType

structure Schema where
  type : Option SchemaType
  format : Option String
  description : Option String
  nullable : Bool
  properties : List (String × Schema)
  required : List String
  items : Option Schema
  /-- The schema of the values of all other properties. -/
  additional : Option Schema
  /-- The component that the schema was written as a reference to. -/
  reference : Option String
  /-- Whether the schema stands for a component that it is part of. -/
  recursive : Bool
  deriving Repr, Inhabited

namespace Schema

/-- The schema of any value. -/
def free : Schema where
  type := none
  format := none
  description := none
  nullable := false
  properties := []
  required := []
  items := none
  additional := none
  reference := none
  recursive := false

/-- The schema in the place of a component within itself. -/
def placeholder (component : String) : Schema :=
  { free with type := some .object, reference := some component, recursive := true }

def componentPath : String := "#/components/schemas/"

def referencePath? (schema : Schema) : Option String :=
  schema.reference.map fun component => componentPath ++ component

def isArray (schema : Schema) : Bool :=
  schema.type = some .array || schema.items.isSome

def isObject (schema : Schema) : Bool :=
  schema.type = some .object || !schema.properties.isEmpty

def isScalar (schema : Schema) : Bool :=
  match schema.type with
  | some type => type.isScalar
  | none => false

/-- Add what another schema says about the same values. What is said already
stays; `keepRequired` says whether the other's required properties count. -/
def merge (schema other : Schema) (keepRequired : Bool) : Schema where
  type := schema.type <|> other.type
  format := schema.format <|> other.format
  description := schema.description <|> other.description
  nullable := schema.nullable || other.nullable
  properties := other.properties.foldl
    (fun properties (key, property) => Keyed.insertNew key property properties) schema.properties
  required :=
    if keepRequired then
      other.required.foldl (fun required key =>
        if required.contains key then required else required ++ [key]) schema.required
    else
      schema.required
  items := schema.items <|> other.items
  additional := schema.additional <|> other.additional
  reference := schema.reference
  recursive := schema.recursive

end Schema

mutual
/-- The number of schemas on the longest way down into a schema. -/
def Schema.depth : Schema → Nat
  | ⟨_, _, _, _, properties, _, items, additional, _, _⟩ =>
      max (Schema.depthOfProperties properties)
        (max (Schema.depthOfOption items) (Schema.depthOfOption additional)) + 1

def Schema.depthOfProperties : List (String × Schema) → Nat
  | [] => 0
  | (_, property) :: rest => max property.depth (Schema.depthOfProperties rest)

def Schema.depthOfOption : Option Schema → Nat
  | none => 0
  | some schema => schema.depth
end

end RestModel
