import RestModel.Resource.Descriptor
import RestModel.Support.Issue

/-! # What a description supports

Of the operations and methods declared about a resource, a description supports
some. What it does not support is excluded, with an issue that says why. -/

namespace RestModel

/-- The declared operations and methods of a resource that are supported. -/
structure Support where
  operations : List Operation
  /-- The routes that operations are bound to, in the order of listings. -/
  routes : List (Operation × Route)
  extraMethods : List ExtraMethod
  issues : List Issue
  deriving Repr, DecidableEq, Inhabited

namespace Support

def empty : Support := ⟨[], [], [], []⟩

def supports (support : Support) (operation : Operation) : Bool :=
  support.operations.contains operation

def route? (support : Support) (operation : Operation) : Option Route :=
  (support.routes.find? fun (bound, _) => bound = operation).map (·.2)

/-- Support an operation, for as long as nothing speaks against it. -/
def request (support : Support) (operation : Operation) : Support :=
  { support with operations := support.operations ++ [operation] }

def bind (support : Support) (operation : Operation) (route : Route) : Support :=
  { support with routes := support.routes ++ [(operation, route)] }

def note (support : Support) (issue : Issue) : Support :=
  { support with issues := support.issues ++ [issue] }

/-- Exclude an operation, if it is supported, and record why. -/
def exclude (support : Support) (resource : String) (operation : Operation)
    (reason : IssueReason) (message : String) : Support :=
  if support.supports operation then
    { support with
      operations := support.operations.filter (· ≠ operation)
      routes := support.routes.filter fun (bound, _) => bound ≠ operation
      issues := support.issues ++ [⟨resource, operation.name, reason, message⟩] }
  else
    support

def lostReadToShape (support : Support) (resource : String) : Bool :=
  support.issues.any fun issue =>
    issue.resource == resource && issue.subject == Operation.read.name && issue.reason.isShape

/-- Draw the consequences of exclusions: a Read that is lost to its shape takes
List with it. -/
def cascade (support : Support) (resource : String) : Support :=
  if support.lostReadToShape resource then
    support.exclude resource .list .cascadedExclusion
      "Read was excluded for its response shape; List shares it"
  else
    support

end Support

end RestModel
