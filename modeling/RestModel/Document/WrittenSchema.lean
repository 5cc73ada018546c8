import RestModel.Json.Basic

/-! # Written schemas

A schema of a description is checked as a whole: every member with a known name
has a value of the right kind. Members that say something about types are kept,
the others are dropped, and so are empty lists and objects. -/

namespace RestModel.WrittenSchema

/-- Whether a member may have a value: absent and `null` are the same. -/
def isOptional (isValid : Json → Bool) (value : Json) : Bool := value.isNull || isValid value

def isText (value : Json) : Bool := value.text?.isSome

def isBool (value : Json) : Bool := value.bool?.isSome

def isNumber : Json → Bool
  | .number _ => true
  | _ => false

def isCount (value : Json) : Bool := value.nat?.isSome

def isList (value : Json) : Bool := value.items?.isSome

def isTextList (value : Json) : Bool :=
  match value.items? with
  | some items => items.all isText
  | none => false

def isTextMap (value : Json) : Bool :=
  match value.members? with
  | some members => members.all fun (_, value) => isText value
  | none => false

def typeNames : List String :=
  ["boolean", "integer", "number", "string", "array", "object", "null"]

def isTypeName (value : Json) : Bool :=
  match value.text? with
  | some name => typeNames.contains name
  | none => false

def isType (value : Json) : Bool :=
  match value with
  | .array items => items.all isTypeName
  | value => isTypeName value

/-- Whether a value tells alternatives apart by a property. -/
def isDiscriminator (value : Json) : Bool :=
  (value.textAt? "propertyName").isSome &&
    isOptional isTextMap ((value.get? "mapping").getD .null)

/-- Check a member that holds no schema. The result says whether it is kept; a
member with a wrong value has none. -/
def keepsMember? (key : String) (value : Json) : Option Bool :=
  let optional (isValid : Json → Bool) (kept : Bool) : Option Bool :=
    if value.isNull then some false else if isValid value then some kept else none
  match key with
  | "type" => optional isType true
  | "format" | "description" => optional isText true
  | "title" | "pattern" => optional isText false
  | "required" =>
      if isTextList value then some !(value.items?.getD []).isEmpty else none
  | "enum" | "examples" => if isList value then some false else none
  | "multipleOf" | "maximum" | "exclusiveMaximum" | "minimum" | "exclusiveMinimum" =>
      optional isNumber false
  | "maxLength" | "minLength" | "maxItems" | "minItems" | "maxProperties" | "minProperties" =>
      optional isCount false
  | "uniqueItems" | "deprecated" | "readOnly" | "writeOnly" => optional isBool false
  | "discriminator" => optional isDiscriminator false
  | _ => some false

/-- Whether an object is a reference: its path is a text, and so are the texts
beside it. -/
def isReference (members : List (String × Json)) : Bool :=
  ((Json.object members).textAt? "$ref").isSome &&
    members.all fun (key, value) =>
      (key != "summary" && key != "description") || isOptional isText value

def referenceMembers (members : List (String × Json)) : List (String × Json) :=
  members.filter fun (key, value) =>
    ["$ref", "summary", "description"].contains key && !value.isNull

/-- An object that is a reference, or else has the given members. -/
def ofObject? (members : List (String × Json)) (kept : Unit → Option (List (String × Json))) :
    Option Json :=
  if isReference members then some (.object (referenceMembers members))
  else (kept ()).map .object

mutual
/-- Check a schema, and keep what it says about types. -/
def ofJson? : Json → Option Json
  | .object members => ofObject? members fun _ => keptMembers? members
  | _ => none
termination_by structural value => value

def keptMembers? : List (String × Json) → Option (List (String × Json))
  | [] => some []
  | (key, value) :: rest => do
      let kept ← keptMembers? rest
      match key with
      | "properties" =>
          let properties ← ofNamed? value
          return if properties.isEmpty then kept else (key, .object properties) :: kept
      | "items" | "additionalProperties" =>
          let value ← ofOptional? value
          return if value.isNull then kept else (key, value) :: kept
      | "allOf" | "anyOf" | "oneOf" =>
          let schemas ← ofList? value
          return if schemas.isEmpty then kept else (key, .array schemas) :: kept
      | "prefixItems" =>
          let _ ← ofList? value
          return kept
      | _ =>
          let isKept ← keepsMember? key value
          return if isKept then (key, value) :: kept else kept

def ofOptional? : Json → Option Json
  | .null => some .null
  | .bool value => some (.bool value)
  | .object members => ofObject? members fun _ => keptMembers? members
  | _ => none

def ofNamed? : Json → Option (List (String × Json))
  | .object members => ofMembers? members
  | _ => none

def ofMembers? : List (String × Json) → Option (List (String × Json))
  | [] => some []
  | (key, value) :: rest => do
      let schema ← ofJson? value
      let others ← ofMembers? rest
      return (key, schema) :: others

def ofList? : Json → Option (List Json)
  | .array items => ofItems? items
  | _ => none

def ofItems? : List Json → Option (List Json)
  | [] => some []
  | value :: rest => do
      let schema ← ofJson? value
      let others ← ofItems? rest
      return schema :: others
end

end RestModel.WrittenSchema
