import RestModel.Document.Basic
import RestModel.Document.WrittenSchema
import RestModel.Json.Reader
import RestModel.Yaml.Value

/-! # Reading descriptions

A description is accepted if every part with a known name is well-formed,
whether or not anything refers to it. Parts with other names are of no concern. -/

namespace RestModel.Document

open WrittenSchema (isOptional isText isBool isTextList isReference)

def memberOrNull (key : String) (value : Json) : Json := (value.get? key).getD .null

def hasOptionalText (key : String) (value : Json) : Bool :=
  isOptional isText (memberOrNull key value)

def hasText (key : String) (value : Json) : Bool := isText (memberOrNull key value)

def isObject (value : Json) : Bool := value.members?.isSome

/-- Whether a member is absent, or else well-formed. -/
def hasAbsentOr (key : String) (isValid : Json → Bool) (value : Json) : Bool :=
  match value.get? key with
  | none => true
  | some member => isValid member

def isListOf (isValid : Json → Bool) (value : Json) : Bool :=
  match value.items? with
  | some items => items.all isValid
  | none => false

def isMapOf (isValid : Json → Bool) (value : Json) : Bool :=
  match value.members? with
  | some members => members.all fun (_, value) => isValid value
  | none => false

/-- Whether a value is a reference, or else well-formed. -/
def isReferenceOr (isValid : Json → Bool) (value : Json) : Bool :=
  match value with
  | .object members => isReference members || isValid value
  | _ => false

def isServer (value : Json) : Bool := isObject value && hasText "url" value

def isParameter (value : Json) : Bool :=
  hasText "name" value &&
    match value.textAt? "in" with
    | some place => ["path", "query", "header", "cookie"].contains place
    | none => false

def readMembers? (read : Json → Option α) : List (String × Json) → Option (List (String × α))
  | [] => some []
  | (key, value) :: rest => do
      let value ← read value
      let others ← readMembers? read rest
      return (key, value) :: others

def readMap? (read : Json → Option α) (key : String) (value : Json) :
    Option (List (String × α)) :=
  match value.get? key with
  | none => some []
  | some map => map.members?.bind (readMembers? read)

/-- Read an object of members, which is empty if it is absent or `null`. -/
def readOptionalMap? (read : Json → Option α) (key : String) (value : Json) :
    Option (List (String × α)) :=
  if (memberOrNull key value).isNull then some [] else readMap? read key value

/-- The schema of a media type. A reference is kept without the texts beside it. -/
def mediaSchema? (value : Json) : Option (Option Json) := do
  let _ ← value.members?
  match memberOrNull "schema" value with
  | .null => return none
  | schema => do
      let written ← WrittenSchema.ofJson? schema
      match written.textAt? "$ref" with
      | some path => return some (.object [("$ref", .string path)])
      | none => return some written

def body? (read : Json → Option Content) (value : Json) : Option Body :=
  match value with
  | .object members =>
      if isReference members then
        (value.textAt? "$ref").map .reference
      else
        (read value).map .inline
  | _ => none

def requestContent? (value : Json) : Option Content := do
  let _ ← value.get? "content"
  if hasOptionalText "description" value && isOptional isBool (memberOrNull "required" value) then
    readMap? mediaSchema? "content" value
  else
    none

def responseContent? (value : Json) : Option Content :=
  if hasOptionalText "description" value then readMap? mediaSchema? "content" value else none

def readEndpoint? (value : Json) : Option Endpoint := do
  let _ ← value.members?
  let isValid :=
    hasAbsentOr "tags" isTextList value && hasOptionalText "summary" value &&
      hasOptionalText "description" value && hasOptionalText "operationId" value &&
      hasAbsentOr "parameters" (isListOf (isReferenceOr isParameter)) value &&
      isOptional isBool (memberOrNull "deprecated" value)
  if !isValid then
    none
  let request ← match memberOrNull "requestBody" value with
    | .null => some none
    | body => (body? requestContent? body).map some
  let responses ← readOptionalMap? (body? responseContent?) "responses" value
  return ⟨value.textAt? "summary", value.textAt? "description", request, responses⟩

/-- The verbs of a path and their names, in small letters. -/
def pathVerbs : List (String × Verb) :=
  [("get", .get), ("put", .put), ("post", .post), ("delete", .delete), ("options", .options),
    ("head", .head), ("patch", .patch), ("trace", .trace)]

def readVerbs? (value : Json) : List (String × Verb) → Option (List (Verb × Endpoint))
  | [] => some []
  | (name, verb) :: rest => do
      let others ← readVerbs? value rest
      match memberOrNull name value with
      | .null => return others
      | endpoint => do
          let endpoint ← readEndpoint? endpoint
          return (verb, endpoint) :: others

def readPath? (value : Json) : Option (List (Verb × Endpoint)) := do
  let _ ← value.members?
  let isValid :=
    hasOptionalText "$ref" value && hasOptionalText "summary" value &&
      hasOptionalText "description" value && hasAbsentOr "servers" (isListOf isServer) value &&
      hasAbsentOr "parameters" (isListOf (isReferenceOr isParameter)) value
  if isValid then readVerbs? value pathVerbs else none

def isInfo (value : Json) : Bool :=
  hasText "title" value && hasText "version" value && hasOptionalText "summary" value &&
    hasOptionalText "description" value

def areComponents (value : Json) : Bool :=
  isObject value &&
    hasAbsentOr "responses" (isMapOf fun body => (body? responseContent? body).isSome) value &&
    hasAbsentOr "requestBodies" (isMapOf fun body => (body? requestContent? body).isSome) value &&
    hasAbsentOr "parameters" (isMapOf (isReferenceOr isParameter)) value &&
    hasAbsentOr "pathItems" (isMapOf (isReferenceOr fun path => (readPath? path).isSome)) value &&
    ["examples", "headers", "securitySchemes", "links", "callbacks"].all fun key =>
      hasAbsentOr key (isMapOf isObject) value

/-- The content of the bodies that are shared under a name, as it is written. -/
def sharedContent (components : Json) (section_ : String) : List (String × Content) :=
  match (components.get? section_).bind Json.members? with
  | none => []
  | some bodies => bodies.map fun (name, body) =>
      let media := ((body.get? "content").bind Json.members?).getD []
      (name, media.map fun (mediaType, value) => (mediaType, value.get? "schema"))

/-- The properties that wrap the items of a list where nothing else is said. -/
def standardWrapperKeys : List String := ["items", "data", "results"]

def ofJson? (value : Json) : Option Document := do
  let _ ← value.members?
  let info ← value.get? "info"
  let title ← info.textAt? "title"
  let isValid :=
    hasText "openapi" value && isInfo info && hasAbsentOr "servers" (isListOf isServer) value &&
      hasAbsentOr "tags" (isListOf fun tag => hasText "name" tag) value &&
      hasAbsentOr "webhooks" (isMapOf fun path => (readPath? path).isSome) value
  if !isValid then
    none
  let paths ← readOptionalMap? readPath? "paths" value
  let components := memberOrNull "components" value
  if components.isNull then
    return ⟨title, paths, [], [], [], standardWrapperKeys⟩
  if !areComponents components then
    none
  let schemas ← readMap? WrittenSchema.ofJson? "schemas" components
  return ⟨title, paths, schemas, sharedContent components "requestBodies",
    sharedContent components "responses", standardWrapperKeys⟩

def ofText? (isYaml : Bool) (text : String) : Option Document := do
  ofJson? (← if isYaml then Yaml.read? text else Json.read? text)

/-- Read a description from a value that stands for its text. -/
def ofValue? (value : Json) : Option Document :=
  if value.depth < Json.nestingLimit then ofJson? value else none

end RestModel.Document
