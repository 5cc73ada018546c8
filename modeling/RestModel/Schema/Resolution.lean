import RestModel.Json.Basic
import RestModel.Schema.Basic
import RestModel.Text.Pieces

/-! # Resolving schemas

A description writes schemas with references to named components and with
compositions of schemas. Resolving replaces references by what they refer to
and merges compositions. A component within itself is left as a placeholder, so
every schema is resolved, whatever its components refer to. -/

namespace RestModel.Schema

/-- The parts of a written schema that hold schemas themselves, resolved. -/
structure Parts where
  properties : List (String × Schema)
  items : Option Schema
  additional : Option Schema
  allOf : List Schema
  /-- The alternatives, where `none` stands for the null value. -/
  oneOf : Option (List (Option Schema))
  anyOf : Option (List (Option Schema))

namespace Parts

def empty : Parts := ⟨[], none, none, [], none, none⟩

def variants (parts : Parts) : List (Option Schema) :=
  (parts.oneOf <|> parts.anyOf).getD []

end Parts

def isNullVariant (value : Json) : Bool := value.textAt? "type" == some "null"

def typeOfNames (names : List String) : Option SchemaType :=
  (names.filter (· ≠ "null")).findSome? SchemaType.ofName?

def writtenType? (value : Json) : Option SchemaType :=
  match value.get? "type" with
  | some (.string name) => SchemaType.ofName? name
  | some (.array names) => typeOfNames (names.filterMap Json.text?)
  | _ => none

def writtenNullable (value : Json) : Bool :=
  let byType := match value.get? "type" with
    | some (.string name) => name == "null"
    | some (.array names) => (names.filterMap Json.text?).contains "null"
    | _ => false
  byType || (value.get? "nullable").bind Json.bool? == some true

/-- Merge the alternatives of a schema into it. A single alternative counts like
a part of the schema itself. Of several ones, objects contribute properties that
are not required, and anything else leaves the schema as it is. -/
def addVariants (schema : Schema) (variants : List (Option Schema)) : Schema :=
  let schema := { schema with nullable := schema.nullable || variants.any (·.isNone) }
  match variants.filterMap id with
  | [] => schema
  | [only] => schema.merge only true
  | several =>
      if several.all isObject then
        several.foldl (fun schema variant => schema.merge variant false) schema
      else
        schema

/-- The schema of an object that is not a reference, from its resolved parts. -/
def assemble (value : Json) (parts : Parts) : Schema :=
  let own : Schema := {
    type := writtenType? value
    format := value.textAt? "format"
    description := value.textAt? "description"
    nullable := writtenNullable value
    properties := parts.properties
    required := (value.itemsAt "required").filterMap Json.text?
    items := parts.items
    additional := parts.additional
    reference := none
    recursive := false }
  (parts.allOf.foldl (fun schema part => schema.merge part true) own).addVariants parts.variants

/-- The schema of a reference, with the description that stands beside it. -/
def describe (schema : Schema) (description : Option String) : Schema :=
  { schema with description := description <|> schema.description }

def ofObject (expand : String → Schema) (members : List (String × Json))
    (parts : Unit → Parts) : Schema :=
  let value := Json.object members
  match value.textAt? "$ref" with
  | some path => (expand path).describe (value.textAt? "description")
  | none => assemble value (parts ())

mutual
/-- Resolve a written schema, where `expand` resolves references. -/
def resolveWith (expand : String → Schema) : Json → Schema
  | .object members => ofObject expand members fun _ => resolveParts expand members
  | _ => free
termination_by structural value => value

def resolveParts (expand : String → Schema) : List (String × Json) → Parts
  | [] => .empty
  | (key, value) :: rest =>
      let parts := resolveParts expand rest
      match key with
      | "properties" => { parts with properties := resolveNamed expand value }
      | "items" => { parts with items := some (resolveWith expand value) }
      | "additionalProperties" => { parts with additional := resolveAdditional expand value }
      | "allOf" => { parts with allOf := resolveList expand value }
      | "oneOf" => { parts with oneOf := some (resolveVariants expand value) }
      | "anyOf" => { parts with anyOf := some (resolveVariants expand value) }
      | _ => parts

def resolveNamed (expand : String → Schema) : Json → List (String × Schema)
  | .object members => resolveMembers expand members
  | _ => []

def resolveMembers (expand : String → Schema) : List (String × Json) → List (String × Schema)
  | [] => []
  | (key, value) :: rest => (key, resolveWith expand value) :: resolveMembers expand rest

/-- Resolve the schema of other properties, which may be a truth value. -/
def resolveAdditional (expand : String → Schema) : Json → Option Schema
  | .bool true => some free
  | .object members => some (ofObject expand members fun _ => resolveParts expand members)
  | _ => none

def resolveList (expand : String → Schema) : Json → List Schema
  | .array items => resolveItems expand items
  | _ => []

def resolveItems (expand : String → Schema) : List Json → List Schema
  | [] => []
  | value :: rest => resolveWith expand value :: resolveItems expand rest

def resolveVariants (expand : String → Schema) : Json → List (Option Schema)
  | .array items => resolveVariantItems expand items
  | _ => []

/-- Resolve the items of a list of alternatives. An alternative that is a
reference is one no longer once it is merged. -/
def resolveVariantItems (expand : String → Schema) : List Json → List (Option Schema)
  | [] => []
  | value :: rest =>
      let variant := if isNullVariant value then none else some (resolveWith expand value)
      variant :: resolveVariantItems expand rest
end

/-- Resolve a reference to a component, within the components of `stack`. A
component on the stack is left as a placeholder, so no more than `room`
components are entered, where `room` is at least the number of components that
are not on the stack. -/
def expand (components : List (String × Json)) : (room : Nat) → (stack : List String) →
    (path : String) → Schema
  | room, stack, path =>
      match Text.after? componentPath path with
      | none => free
      | some name =>
          if stack.contains name then
            placeholder name
          else
            match Keyed.get? name components, room with
            | none, _ | _, 0 => free
            | some component, room + 1 =>
                let resolved := resolveWith (expand components room (name :: stack)) component
                { resolved with reference := some name }

def resolveWithin (components : List (String × Json)) (stack : List String) (value : Json) :
    Schema :=
  resolveWith (expand components components.length stack) value

def resolve (components : List (String × Json)) (value : Json) : Schema :=
  resolveWithin components [] value

end RestModel.Schema
