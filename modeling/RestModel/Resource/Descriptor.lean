import RestModel.Directive.Wait
import RestModel.Operation
import RestModel.Verb

/-! # Descriptors of resources

A descriptor holds everything that is declared about one resource, before it is
compared with a description. -/

namespace RestModel

/-- The operations of a resource and the path they were declared on. -/
structure OperationSet where
  operations : List Operation
  /-- The path of the collection, or of one item of it. -/
  path : String
  marker : String
  listed : Operation.listing operations = operations
  deriving Repr, DecidableEq

def OperationSet.of (operations : List Operation) (path marker : String) : OperationSet :=
  ⟨Operation.listing operations, path, marker, Operation.listing_listing operations⟩

structure ExtraMethod where
  verb : Verb
  path : String
  wait : Option Wait
  marker : String
  deriving Repr, DecidableEq, Inhabited

namespace ExtraMethod

def isAsync (method : ExtraMethod) : Bool := method.wait.isSome

def sameRoute (method other : ExtraMethod) : Bool :=
  method.verb == other.verb && method.path == other.path

def route (method : ExtraMethod) : String := method.verb.route method.path

end ExtraMethod

structure RouteOverride where
  verb : Verb
  path : String
  marker : String
  deriving Repr, DecidableEq, Inhabited

/-- The paths of markers that name a purpose instead of operations. -/
structure LegacyPaths where
  details : Option String
  upsert : Option String
  deriving Repr, DecidableEq, Inhabited

structure Descriptor where
  name : String
  operationSet : Option OperationSet
  extraMethods : List ExtraMethod
  legacy : LegacyPaths
  requestUrl : Option RouteOverride
  responseUrl : Option RouteOverride
  origin : Option String
  deriving Repr, DecidableEq, Inhabited

namespace Descriptor

def empty (name : String) : Descriptor :=
  ⟨name, none, [], ⟨none, none⟩, none, none, none⟩

def hasRoute (descriptor : Descriptor) (method : ExtraMethod) : Bool :=
  descriptor.extraMethods.any (·.sameRoute method)

/-- Declare a method, unless its verb and path are declared already. -/
def addExtraMethod (descriptor : Descriptor) (method : ExtraMethod) : Descriptor :=
  if descriptor.hasRoute method then descriptor
  else { descriptor with extraMethods := descriptor.extraMethods ++ [method] }

def addExtraMethods (descriptor : Descriptor) (methods : List ExtraMethod) : Descriptor :=
  methods.foldl addExtraMethod descriptor

end Descriptor

end RestModel
