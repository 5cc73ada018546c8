import RestModel.Schema.Resolution
import RestModel.Text.Blank
import RestModel.Text.Quoted
import RestModel.Verb

/-! # Service descriptions

A description declares operations under paths and verbs, and schemas under the
names of components. Everything else in this library asks a description only
through the questions of this module. -/

namespace RestModel

/-- The content of a body: media types in the order of their names, each with
the written schema that it declares. -/
abbrev Content := List (String × Option Json)

/-- A body, declared in its place or as a reference to a shared one. -/
inductive Body where
  | inline (content : Content)
  | reference (path : String)
  deriving Inhabited

structure Endpoint where
  summary : Option String
  description : Option String
  request : Option Body
  /-- The answers by status, in the order of the written statuses. -/
  responses : List (String × Body)
  deriving Inhabited

structure Document where
  title : String
  paths : List (String × List (Verb × Endpoint))
  components : List (String × Json)
  sharedRequests : List (String × Content)
  sharedResponses : List (String × Content)
  /-- The properties that may wrap the items of a list, most likely first. -/
  listWrapperKeys : List String
  deriving Inhabited

/-- Which schema of an operation is asked for. -/
inductive Part where
  | request
  | response
  /-- What a list consists of: the items of the response, or of the list that it
  wraps. -/
  | unwrappedResponse
  deriving Repr, DecidableEq, Inhabited

structure PartSchema where
  schema : Schema
  /-- Whether the items of a list took the place of the list. -/
  unwrapped : Bool
  deriving Inhabited

inductive LookupError where
  | operationNotFound (verb : Verb) (path : String)
  | componentNotFound (name : String)
  deriving Repr, DecidableEq, Inhabited

def LookupError.message : LookupError → String
  | .operationNotFound verb path => "operation " ++ verb.route path ++ " is not declared"
  | .componentNotFound name => "component schema `" ++ name ++ "` is not declared"

def jsonMediaType : String := "application/json"

namespace Content

def schemas (content : Content) : List (String × Json) :=
  content.filterMap fun (mediaType, schema) => schema.map fun schema => (mediaType, schema)

/-- The schema of a content: that of JSON, or else the first one. -/
def schema? (content : Content) : Option Json :=
  Keyed.get? jsonMediaType (schemas content) <|> (schemas content).head?.map (·.2)

end Content

/-- The number of a written status: decimal digits after an optional plus sign,
of sixteen bits. -/
def readStatusCode? (text : String) : Option Nat :=
  let digits := match text.toList with
    | '+' :: digits => digits
    | digits => digits
  if digits.isEmpty || digits.any (!·.isDigit) then
    none
  else
    let value := digits.foldl (fun value c => value * 10 + (c.toNat - 48)) 0
    if value < 65536 then some value else none

namespace Endpoint

def statusCodes (endpoint : Endpoint) : List Nat :=
  (endpoint.responses.filterMap fun (status, _) => readStatusCode? status).mergeSort (· ≤ ·)

def summaryText? (endpoint : Endpoint) : Option String :=
  (endpoint.summary <|> endpoint.description).filter fun text => !Text.isBlankText text

end Endpoint

namespace Document

/-- The content of a body, where `shared` holds the bodies under `section`. -/
def contentOf (shared : List (String × Content)) (section_ : String) : Body → Content
  | .inline content => content
  | .reference path =>
      match Text.after? ("#/components/" ++ section_ ++ "/") path with
      | some name => (Keyed.get? name shared).getD []
      | none => []

def endpoint? (document : Document) (verb : Verb) (path : String) : Option Endpoint := do
  let endpoints ← Keyed.get? path document.paths
  (endpoints.find? fun (declared, _) => declared = verb).map (·.2)

def hasEndpoint (document : Document) (verb : Verb) (path : String) : Bool :=
  (document.endpoint? verb path).isSome

def resolve (document : Document) (value : Json) : Schema :=
  Schema.resolve document.components value

def component? (document : Document) (name : String) : Option Schema :=
  if Keyed.contains name document.components then
    some (document.resolve (.object [("$ref", .string (Schema.componentPath ++ name))]))
  else
    none

def requestSchema? (document : Document) (endpoint : Endpoint) : Option Json :=
  endpoint.request.bind fun body =>
    Content.schema? (contentOf document.sharedRequests "requestBodies" body)

/-- Every written schema of a successful answer, with its status and media type,
in the order of statuses. Equal statuses stay in the order they are written. -/
def successSchemas (document : Document) (endpoint : Endpoint) : List (Nat × String × Json) :=
  let declared := endpoint.responses.flatMap fun (status, body) =>
    match readStatusCode? status with
    | none => []
    | some code =>
        if 200 ≤ code ∧ code < 300 then
          (Content.schemas (contentOf document.sharedResponses "responses" body)).map (code, ·)
        else
          []
  declared.mergeSort fun left right => left.1 ≤ right.1

/-- The written schema of an operation's successful answer: JSON of status 200,
or else JSON of the least status, or else anything of the least status. -/
def responseSchema? (document : Document) (endpoint : Endpoint) : Option Json :=
  let schemas := document.successSchemas endpoint
  let isJson := fun (entry : Nat × String × Json) => entry.2.1 == jsonMediaType
  let chosen :=
    schemas.find? (fun entry => entry.1 == 200 && isJson entry) <|>
      schemas.find? isJson <|> schemas.head?
  chosen.map (·.2.2)

/-- The first property under one of `keys` that is a list. -/
def wrappedList? (keys : List String) (schema : Schema) : Option Schema :=
  keys.findSome? fun key => (Keyed.get? key schema.properties).filter (·.isArray)

/-- Take the items of a list in place of the list, which may be wrapped. -/
def listPart (document : Document) (schema : Schema) : PartSchema :=
  if schema.isArray then
    ⟨schema.items.getD .free, true⟩
  else if schema.isObject then
    match wrappedList? document.listWrapperKeys schema with
    | some list => ⟨list.items.getD .free, true⟩
    | none => ⟨schema, false⟩
  else
    ⟨schema, false⟩

def partSchema? (document : Document) (endpoint : Endpoint) : Part → Option PartSchema
  | .request => (document.requestSchema? endpoint).map fun value =>
      ⟨document.resolve value, false⟩
  | .response => (document.responseSchema? endpoint).map fun value =>
      ⟨document.resolve value, false⟩
  | .unwrappedResponse => (document.responseSchema? endpoint).map fun value =>
      document.listPart (document.resolve value)

def operationSchema (document : Document) (verb : Verb) (path : String) (part : Part) :
    Except LookupError (Option PartSchema) :=
  match document.endpoint? verb path with
  | none => .error (.operationNotFound verb path)
  | some endpoint => .ok (document.partSchema? endpoint part)

/-- The statuses of an operation, in ascending order; none if it is not declared. -/
def statusCodes (document : Document) (verb : Verb) (path : String) : List Nat :=
  ((document.endpoint? verb path).map (·.statusCodes)).getD []

def summary? (document : Document) (verb : Verb) (path : String) : Option String :=
  (document.endpoint? verb path).bind (·.summaryText?)

def debugText (document : Document) : String :=
  "OpenApiProvider \x7b title: " ++ Text.debugQuoted document.title ++ ", components: " ++
    toString document.components.length ++ " \x7d"

end Document

end RestModel
