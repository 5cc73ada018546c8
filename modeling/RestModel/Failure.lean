import RestModel.Directive.Payload
import RestModel.Verb

/-! # Failures

A failure is a mistake of an author that leaves no model at all. Everything
else that is wrong with a description costs single operations and is recorded
as an issue. -/

namespace RestModel

inductive Failure where
  | unknownOperation (resource marker : String) (verb : Verb) (path : String)
  | unknownResourcePath (resource path : String)
  | duplicateOperationSet (resource marker : String)
  | registry (error : RegistryError)
  /-- The sources cannot be read. -/
  | extraction (message : String)
  deriving Repr, DecidableEq, Inhabited

namespace Failure

def message : Failure → String
  | .unknownOperation resource marker verb path =>
      "resource `" ++ resource ++ "`: annotation `" ++ marker ++ "` references " ++
        verb.route path ++ ", which the OpenAPI document does not declare"
  | .unknownResourcePath resource path =>
      "resource `" ++ resource ++ "`: path `" ++ path ++
        "` matches no operation in the OpenAPI document"
  | .duplicateOperationSet resource marker =>
      "resource `" ++ resource ++ "` declares more than one operation-set marker (`" ++
        marker ++ "`)"
  | .registry error => error.message
  | .extraction message => "failed to extract source facts: " ++ message

end Failure

end RestModel
