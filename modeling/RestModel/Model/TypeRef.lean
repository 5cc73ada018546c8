import RestModel.Keyed
import RestModel.Schema.Shape

/-! # Types of a model

A model consists of fields, each with a type. Types mention record types by
name, and record types are listed once, whoever mentions them. -/

namespace RestModel

inductive Primitive where
  | string
  | integer
  | number
  | boolean
  | any
  deriving Repr, DecidableEq, Inhabited

namespace Primitive

def name : Primitive → String
  | .string => "string"
  | .integer => "integer"
  | .number => "number"
  | .boolean => "boolean"
  | .any => "any"

def ofSchema (schema : Schema) : Primitive :=
  match schema.type with
  | some .string => .string
  | some .integer => .integer
  | some .number => .number
  | some .boolean => .boolean
  | some .object | some .array | none => .any

end Primitive

inductive TypeRef where
  | primitive (kind : Primitive) (format : Option String)
  /-- A map from texts. -/
  | map (value : TypeRef)
  | array (item : TypeRef)
  | named (name : String)
  /-- A type whose values may be absent. -/
  | wrapped (inner : TypeRef)
  deriving Repr, DecidableEq, Inhabited

namespace TypeRef

def any : TypeRef := .primitive .any none

def ofPrimitive (schema : Schema) : TypeRef := .primitive (.ofSchema schema) schema.format

def isWrapped : TypeRef → Bool
  | .wrapped _ => true
  | _ => false

def names : TypeRef → List String
  | .primitive _ _ => []
  | .named name => [name]
  | .map inner | .array inner | .wrapped inner => inner.names

end TypeRef

structure Field where
  name : String
  type : TypeRef
  /-- The key of the property that the field stands for. -/
  sourceKey : String
  required : Bool
  doc : Option String
  deriving Repr, DecidableEq, Inhabited

namespace Field

/-- Whether a field is listed before another, or they are listed as they come:
required fields first, then by name. -/
def isListedFirst (field other : Field) : Bool :=
  if field.required = other.required then !decide (other.name < field.name) else field.required

def sort (fields : List Field) : List Field := fields.mergeSort isListedFirst

end Field

/-- The fields of a type, and the type of all properties beside them. -/
structure FieldList where
  fields : List Field
  additional : Option TypeRef
  deriving Repr, DecidableEq, Inhabited

structure RecordType where
  name : String
  fields : List Field
  additional : Option TypeRef
  /-- The component that the type was made from, if it is shared. -/
  component : Option String
  doc : Option String
  deriving Repr, DecidableEq, Inhabited

abbrev TypeTable := List (String × RecordType)

namespace TypeTable

/-- Add a type, unless there is one of its name. -/
def register (table : TypeTable) (type : RecordType) : TypeTable :=
  Keyed.insertNew type.name type table

end TypeTable

inductive TypeBody where
  | fields (list : FieldList)
  /-- The model is another type: a component, an array, a map or a primitive. -/
  | alias (target : TypeRef)
  deriving Repr, DecidableEq, Inhabited

end RestModel
