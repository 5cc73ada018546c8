import RestModel.Schema.Basic

/-! # Shapes

The shape of a schema decides what is made of it. -/

namespace RestModel

/-- What a schema amounts to. -/
inductive Shape where
  /-- A scalar, or any value. -/
  | primitive
  /-- No properties of its own, but a schema for arbitrary ones. -/
  | map
  | array (item : Shape)
  /-- An object about which nothing is known. -/
  | ambiguousObject
  /-- An object with properties, or a component within itself. -/
  | object
  deriving Repr, DecidableEq, Inhabited

namespace Shape

/-- Whether a shape is an array of ambiguous objects, at any depth. -/
def hasAmbiguousItems : Shape → Bool
  | .array .ambiguousObject => true
  | .array item => item.hasAmbiguousItems
  | _ => false

def hasPrimitiveItems : Shape → Bool
  | .array .primitive => true
  | _ => false

def isRecord : Shape → Bool
  | .object | .map => true
  | _ => false

end Shape

namespace Schema

def isUntyped (schema : Schema) : Bool :=
  schema.type.isNone && schema.properties.isEmpty && schema.items.isNone &&
    schema.additional.isNone

/-- The shape of a schema, given the shape of its items. -/
def shapeWith (schema : Schema) (items : Option Shape) : Shape :=
  if schema.recursive then .object
  else if schema.isScalar then .primitive
  else if schema.isUntyped then .primitive
  else if schema.properties.isEmpty && schema.additional.isSome then .map
  else if schema.isArray then .array (items.getD .primitive)
  else if schema.properties.isEmpty then .ambiguousObject
  else .object

end Schema

mutual
def Schema.shape : Schema → Shape
  | ⟨type, format, description, nullable, properties, required, items, additional, reference,
      recursive⟩ =>
      Schema.shapeWith ⟨type, format, description, nullable, properties, required, items,
        additional, reference, recursive⟩ (Schema.shapeOfItems items)

def Schema.shapeOfItems : Option Schema → Option Shape
  | none => none
  | some schema => some schema.shape
end

end RestModel
