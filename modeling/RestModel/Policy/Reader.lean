import RestModel.Json.Basic
import RestModel.Policy.Basic

/-! # Reading settings

Settings are an object whose members all have known names. A member that is
`null` says as little as one that is absent. -/

namespace RestModel

def readEach (read : Json → Option α) : List Json → Option (List α)
  | [] => some []
  | item :: rest => do
      let value ← read item
      let others ← readEach read rest
      return value :: others

def readList (read : Json → Option α) (value : Json) : Option (List α) :=
  value.items?.bind (readEach read)

def readTexts (value : Json) : Option (List String) := readList Json.text? value

def readStatus (value : Json) : Option Nat :=
  value.nat?.bind fun status => if status < 65536 then some status else none

/-- Read a choice by its name. The name may also be the key of a value that says
nothing. -/
def readChoice (saysNothing : Json → Bool) (ofName? : String → Option α) : Json → Option α
  | .string name => ofName? name
  | .object [(name, value)] => if saysNothing value then ofName? name else none
  | _ => none

/-- Read what may be absent: the outer level of the result says whether it could
be read, the inner one whether it is there. -/
def readOptional (read : Json → Option α) : Option Json → Option (Option α)
  | none => some none
  | some .null => some none
  | some value => (read value).map some

def hasOnly (names : List String) (members : List (String × Json)) : Bool :=
  members.all fun (name, _) => names.contains name

namespace PolicySettings

def memberNames : List String :=
  ["operation_set", "array_of_primitives", "alias_components", "update_methods",
    "no_content_statuses", "default_wait", "list_wrapper_keys", "async_task_fields"]

def ofMembers? (saysNothing : Json → Bool) (members : List (String × Json)) :
    Option PolicySettings := do
  let member := fun name => Keyed.get? name members
  if !hasOnly memberNames members then
    none
  let operationSet ←
    readOptional (readChoice saysNothing OperationSetPolicy.ofName?) (member "operation_set")
  let arrayOfPrimitives ←
    readOptional (readChoice saysNothing PrimitiveArrayPolicy.ofName?)
      (member "array_of_primitives")
  let aliasComponents ← readOptional Json.bool? (member "alias_components")
  let updateMethods ← readOptional readTexts (member "update_methods")
  let noContentStatuses ← readOptional (readList readStatus) (member "no_content_statuses")
  let defaultWait ← readOptional Json.text? (member "default_wait")
  let listWrapperKeys ← readOptional readTexts (member "list_wrapper_keys")
  let asyncTaskFields ← readOptional readTexts (member "async_task_fields")
  return ⟨operationSet, arrayOfPrimitives, aliasComponents, updateMethods, noContentStatuses,
    defaultWait, listWrapperKeys, asyncTaskFields⟩

/-- Give the items of an array the names of the members they stand for. -/
def nameItems (names : List String) (items : List Json) : Option (List (String × Json)) :=
  if items.length ≤ names.length then some (names.zip items) else none

/-- Read settings from an object, or from an array of its first members. -/
def ofJson? : Json → Option PolicySettings
  | .object members => ofMembers? Json.isNull members
  | .array items => (nameItems memberNames items).bind (ofMembers? Json.isNull)
  | _ => none

end PolicySettings

end RestModel
