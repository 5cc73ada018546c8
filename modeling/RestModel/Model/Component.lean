import RestModel.Model.TypeRef
import RestModel.Naming

/-! # Shared types of components

Where a schema is written as a reference to a component, or as an array of such
references, the component's own type can be mentioned in place of a copy of it.
This is done for components that are objects or maps, and only for references:
schemas that happen to look alike are not shared. -/

namespace RestModel

/-- A component that a type of its own is made from. -/
structure Component where
  name : String
  typeName : String
  reference : String
  /-- The schema of the component, resolved on its own. -/
  schema : Schema
  deriving Inhabited

structure ComponentMention where
  /-- The name of a model, or of a type and a field of it. -/
  target : String
  component : String
  typeName : String
  reference : String
  array : Bool
  deriving Repr, DecidableEq, Inhabited

structure ComponentMatch where
  component : Component
  array : Bool
  deriving Inhabited

namespace Component

/-- The component of a name, if its type is made of fields. -/
def ofName? (resolve? : String → Option Schema) (name : String) : Option Component :=
  (resolve? name).bind fun schema =>
    if schema.shape.isRecord then
      some ⟨name, Naming.camelCase name, Schema.componentPath ++ name, schema⟩
    else
      none

end Component

namespace ComponentMatch

/-- The schema that is written as a reference: a schema itself, or else the items
of an array. -/
def direct? (schema : Schema) : Option (Schema × Bool) :=
  match schema.reference, schema.items with
  | some _, _ => some (schema, false)
  | none, some item => if item.reference.isSome then some (item, true) else none
  | none, none => none

/-- The component that a schema refers to, if its type can be shared. -/
def ofSchema? (resolve? : String → Option Schema) (schema : Schema) : Option ComponentMatch :=
  match direct? schema with
  | none => none
  | some (direct, array) =>
      if direct.recursive then
        none
      else
        match direct.reference with
        | none => none
        | some name => (Component.ofName? resolve? name).map (⟨·, array⟩)

def typeRef (found : ComponentMatch) : TypeRef :=
  if found.array then .array (.named found.component.typeName)
  else .named found.component.typeName

def mention (found : ComponentMatch) (target : String) : ComponentMention :=
  ⟨target, found.component.name, found.component.typeName,
    found.component.reference, found.array⟩

end ComponentMatch

namespace ComponentMention

/-- Record a mention, unless one at the same place is recorded. -/
def record (mentions : List ComponentMention) (mention : ComponentMention) :
    List ComponentMention :=
  if mentions.any (·.target = mention.target) then mentions else mentions ++ [mention]

def sort (mentions : List ComponentMention) : List ComponentMention :=
  mentions.mergeSort fun left right => !decide (right.target < left.target)

end ComponentMention

end RestModel
