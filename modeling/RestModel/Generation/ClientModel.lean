import RestModel.Model.Component
import RestModel.Resource.Descriptor
import RestModel.Support.Issue

/-! # Models of clients

The model of a client lists for each resource the operations and methods that
are supported and the types of what they send and receive. -/

namespace RestModel

/-- The role of a type that belongs to one resource. -/
inductive TypeRole where
  | searchParams
  | requestBody
  | responseModel
  | extraRequest
  | extraResponse
  deriving Repr, DecidableEq, Inhabited

namespace TypeRole

def all : List TypeRole :=
  [.searchParams, .requestBody, .responseModel, .extraRequest, .extraResponse]

def name : TypeRole → String
  | .searchParams => "search_params"
  | .requestBody => "request_body"
  | .responseModel => "response_model"
  | .extraRequest => "extra_request"
  | .extraResponse => "extra_response"

end TypeRole

structure ResourceType where
  name : String
  role : TypeRole
  /-- The operation or route that the type is made from. -/
  source : String
  body : TypeBody
  deriving Repr, DecidableEq, Inhabited

structure SupportedOperation where
  operation : Operation
  route : Route
  summary : Option String
  request : Option String
  response : Option String
  searchParams : Option String
  deriving Repr, DecidableEq, Inhabited

structure SupportedMethod where
  verb : Verb
  path : String
  wait : Option Wait
  summary : Option String
  request : Option String
  response : Option String
  deriving Repr, DecidableEq, Inhabited

def SupportedMethod.isAsync (method : SupportedMethod) : Bool := method.wait.isSome

structure ResourceModel where
  name : String
  path : Option String
  operations : List SupportedOperation
  extraMethods : List SupportedMethod
  types : List ResourceType
  requestUrl : Option Route
  responseUrl : Option Route
  issues : List Issue
  deriving Repr, DecidableEq, Inhabited

namespace ResourceModel

def operation? (resource : ResourceModel) (operation : Operation) : Option SupportedOperation :=
  resource.operations.find? fun model => model.operation = operation

def supports (resource : ResourceModel) (operation : Operation) : Bool :=
  (resource.operation? operation).isSome

def letters (resource : ResourceModel) : String :=
  Operation.letters (resource.operations.map (·.operation))

def typesOf (resource : ResourceModel) (role : TypeRole) : List ResourceType :=
  resource.types.filter fun type => type.role = role

end ResourceModel

structure ClientModel where
  resources : List ResourceModel
  /-- The record types that resources share, in the order of their names. -/
  types : List RecordType
  mentions : List ComponentMention
  deriving Repr, DecidableEq, Inhabited

namespace ClientModel

def issues (model : ClientModel) : List Issue := model.resources.flatMap (·.issues)

def type? (model : ClientModel) (name : String) : Option RecordType :=
  model.types.find? fun type => type.name = name

end ClientModel

end RestModel
