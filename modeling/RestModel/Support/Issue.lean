import RestModel.Operation
import RestModel.Verb

/-! # Issues

An issue records an operation, a method or a property that a model lacks, and
why. -/

namespace RestModel

inductive IssueReason where
  | ambiguousSchema
  | missingSchema
  | mapResponse
  | arrayOfAmbiguousObjects
  | brokenUpdateContract
  | primitiveResponse
  | arrayOfPrimitives
  | emptyFields
  | missingOperation
  | cascadedExclusion
  | skippedProperty
  deriving Repr, DecidableEq, Inhabited

namespace IssueReason

def all : List IssueReason :=
  [.ambiguousSchema, .missingSchema, .mapResponse, .arrayOfAmbiguousObjects,
    .brokenUpdateContract, .primitiveResponse, .arrayOfPrimitives, .emptyFields,
    .missingOperation, .cascadedExclusion, .skippedProperty]

def name : IssueReason → String
  | .ambiguousSchema => "ambiguous_schema"
  | .missingSchema => "missing_schema"
  | .mapResponse => "map_response"
  | .arrayOfAmbiguousObjects => "array_of_ambiguous_objects"
  | .brokenUpdateContract => "broken_update_contract"
  | .primitiveResponse => "primitive_response"
  | .arrayOfPrimitives => "array_of_primitives"
  | .emptyFields => "empty_fields"
  | .missingOperation => "missing_operation"
  | .cascadedExclusion => "cascaded_exclusion"
  | .skippedProperty => "skipped_property"

def ofName? (name : String) : Option IssueReason :=
  all.find? fun reason => reason.name == name

/-- Whether a reason is the shape of an answer and not the lack of one. -/
def isShape : IssueReason → Bool
  | .ambiguousSchema | .mapResponse | .primitiveResponse | .emptyFields => true
  | _ => false

end IssueReason

structure Route where
  verb : Verb
  path : String
  deriving Repr, DecidableEq, Inhabited

def Route.display (route : Route) : String := route.verb.route route.path

structure Issue where
  resource : String
  /-- The name of an operation, the route of a method, or a type and a property
  of it. -/
  subject : String
  reason : IssueReason
  message : String
  deriving Repr, DecidableEq, Inhabited

def Issue.line (issue : Issue) : String :=
  "[" ++ issue.reason.name ++ "] " ++ issue.resource ++ " " ++ issue.subject ++ ": " ++
    issue.message

end RestModel
