import RestModel.Document.Basic
import RestModel.Failure
import RestModel.Naming
import RestModel.Policy.Basic
import RestModel.Schema.Shape
import RestModel.Support.Basic

/-! # Checking descriptors against a description

Every declared operation is checked on its own: it needs a route that the
description declares, and answers of a shape that a model can be made from. -/

namespace RestModel

structure Rejection where
  reason : IssueReason
  message : String
  deriving Repr, DecidableEq, Inhabited

structure ResourcePaths where
  collection : String
  item : Option String
  deriving Repr, DecidableEq, Inhabited

namespace ResourcePaths

def isNamedParameter (segment : List Char) : Bool :=
  segment.length > 2 && segment.head? == some '\x7b' && segment.getLast? == some '\x7d' &&
    !segment.contains '/'

/-- A path without slashes at its end, or a single slash. -/
def withoutSlashes (path : String) : List Char :=
  match (path.toList.reverse.dropWhile (· == '/')).reverse with
  | [] => ['/']
  | characters => characters

/-- The collection of an item path: what stands before its last segment, if that
is a parameter. -/
def parent? (path : List Char) : Option (List Char) :=
  match path.reverse.dropWhile (· != '/') with
  | [] => none
  | _ :: parent =>
      if isNamedParameter (path.reverse.takeWhile (· != '/')).reverse then
        some (if parent.isEmpty then ['/'] else parent.reverse)
      else
        none

def isItemOf (collection path : List Char) : Bool :=
  match Text.afterChars? collection path with
  | some ('/' :: segment) => isNamedParameter segment
  | _ => false

/-- The paths of a resource, given any of them and all declared ones. The item
path of a collection is the first that is declared. -/
def ofPath (declared : List String) (path : String) : ResourcePaths :=
  let trimmed := withoutSlashes path
  match parent? trimmed with
  | some collection => ⟨String.ofList collection, some (String.ofList trimmed)⟩
  | none =>
      ⟨String.ofList trimmed, declared.find? fun other => isItemOf trimmed other.toList⟩

end ResourcePaths

structure Checker where
  document : Document
  policy : Policy

namespace Checker

def resourcePaths (checker : Checker) (path : String) : ResourcePaths :=
  .ofPath (Keyed.keys checker.document.paths) path

/-- The verbs that show that a path belongs to a resource. -/
def resourceVerbs : List Verb := [.get, .post, .put, .patch, .delete]

def hasAnyEndpoint (checker : Checker) (path : String) : Bool :=
  resourceVerbs.any fun verb => checker.document.hasEndpoint verb path

def requireItem (paths : ResourcePaths) : Except String String :=
  match paths.item with
  | some item => .ok item
  | none =>
      .error ("no item path `" ++ paths.collection ++ "/\x7bid\x7d` is declared")

def wantedRoute (checker : Checker) (paths : ResourcePaths) : Operation → Except String Route
  | .create => .ok ⟨.post, paths.collection⟩
  | .list => .ok ⟨.get, paths.collection⟩
  | .read => (requireItem paths).map (⟨.get, ·⟩)
  | .delete => (requireItem paths).map (⟨.delete, ·⟩)
  | .update =>
      match requireItem paths with
      | .error message => .error message
      | .ok item =>
          match checker.policy.updateMethods.find? (checker.document.hasEndpoint · item) with
          | some verb => .ok ⟨verb, item⟩
          | none =>
              .error ("none of " ++ Text.join ", " (checker.policy.updateMethods.map (·.name)) ++
                " is declared at `" ++ item ++ "`")

def route (checker : Checker) (paths : ResourcePaths) (operation : Operation) :
    Except String Route :=
  match checker.wantedRoute paths operation with
  | .error message => .error message
  | .ok route =>
      if checker.document.hasEndpoint route.verb route.path then .ok route
      else .error (route.display ++ " is not declared")

def schema (checker : Checker) (route : Route) (part : Part) :
    Except Rejection (Option PartSchema) :=
  match checker.document.operationSchema route.verb route.path part with
  | .error problem => .error ⟨.missingOperation, problem.message⟩
  | .ok found => .ok found

def answer (checker : Checker) (route : Route) (part : Part) : Except Rejection PartSchema :=
  match checker.schema route part with
  | .error rejection => .error rejection
  | .ok (some found) => .ok found
  | .ok none => .error ⟨.missingSchema, route.display ++ " declares no response schema"⟩

/-- Whether a route declares a status that confirms an answer without a body. -/
def acceptsEmptyAnswer (checker : Checker) (route : Route) : Bool :=
  let codes := checker.document.statusCodes route.verb route.path
  checker.policy.noContentStatuses.any fun status => codes.contains status

/-- Check a Create, Update or Delete: it needs an answer with a schema, or one
without a body. -/
def checkChange (checker : Checker) (reason : IssueReason) (route : Route) :
    Except Rejection Unit :=
  match checker.schema route .response with
  | .error rejection => .error rejection
  | .ok found =>
      if found.isSome || checker.acceptsEmptyAnswer route then
        .ok ()
      else
        .error ⟨reason, route.display ++
          " declares no response schema and none of the no-content statuses [" ++
          Text.join ", " (checker.policy.noContentStatuses.map toString) ++ "]"⟩

/-- Require the shape of a Read's answer to be an object with properties. -/
def requireObject (route : Route) : Shape → Except Rejection Unit
  | .object => .ok ()
  | .ambiguousObject =>
      .error ⟨.ambiguousSchema, route.display ++ " returns an object without properties"⟩
  | .map => .error ⟨.mapResponse, route.display ++ " returns a map"⟩
  | .primitive => .error ⟨.primitiveResponse, route.display ++ " returns a scalar"⟩
  | .array _ =>
      .error ⟨.ambiguousSchema, route.display ++ " returns an array for a single item"⟩

/-- Check a Read: its answer is an object. -/
def checkRead (checker : Checker) (route : Route) : Except Rejection Unit :=
  match checker.answer route .response with
  | .error rejection => .error rejection
  | .ok found => requireObject route found.schema.shape

/-- Require the items of a List's answer to be objects with properties, or scalars
where the policy allows them. -/
def requireObjects (policy : PrimitiveArrayPolicy) (route : Route) (shape : Shape) :
    Except Rejection Unit :=
  match shape with
  | .object => .ok ()
  | .ambiguousObject =>
      .error ⟨.arrayOfAmbiguousObjects,
        route.display ++ " returns an array of objects without properties"⟩
  | .primitive =>
      match policy with
      | .allow => .ok ()
      | .exclude => .error ⟨.arrayOfPrimitives, route.display ++ " returns an array of scalars"⟩
  | .map => .error ⟨.mapResponse, route.display ++ " returns an array of maps"⟩
  | .array item =>
      if (Shape.array item).hasAmbiguousItems then
        .error ⟨.arrayOfAmbiguousObjects,
          route.display ++ " returns nested arrays of objects without properties"⟩
      else
        .error ⟨.ambiguousSchema, route.display ++ " returns nested arrays"⟩

/-- Check a List: its answer is a list, or wraps one. -/
def checkList (checker : Checker) (route : Route) : Except Rejection Unit :=
  match checker.answer route .unwrappedResponse with
  | .error rejection => .error rejection
  | .ok found =>
      if found.unwrapped then
        requireObjects checker.policy.arrayOfPrimitives route found.schema.shape
      else if found.schema.shape = .map then
        .error ⟨.mapResponse, route.display ++ " returns a map"⟩
      else
        .error ⟨.ambiguousSchema, route.display ++ " returns neither an array nor a list wrapper"⟩

def checkRoute (checker : Checker) (operation : Operation) (route : Route) :
    Except Rejection Unit :=
  match operation with
  | .create | .delete => checker.checkChange .missingSchema route
  | .update => checker.checkChange .brokenUpdateContract route
  | .read => checker.checkRead route
  | .list => checker.checkList route

/-- Check a method: an answer is not needed, but it must have a shape. -/
def checkExtraMethod (checker : Checker) (method : ExtraMethod) : Except Rejection Unit :=
  match checker.schema ⟨method.verb, method.path⟩ .response with
  | .error rejection => .error rejection
  | .ok none => .ok ()
  | .ok (some found) =>
      match found.schema.shape with
      | .ambiguousObject =>
          .error ⟨.ambiguousSchema, method.route ++ " returns an object without properties"⟩
      | shape =>
          if shape.hasAmbiguousItems then
            .error ⟨.arrayOfAmbiguousObjects,
              method.route ++ " returns an array of objects without properties"⟩
          else
            .ok ()

def addOperation (checker : Checker) (resource : String) (paths : ResourcePaths) (support : Support)
    (operation : Operation) : Support :=
  let requested := support.request operation
  match checker.route paths operation with
  | .error message => requested.exclude resource operation .missingOperation message
  | .ok route =>
      let bound := requested.bind operation route
      match checker.checkRoute operation route with
      | .error rejection => bound.exclude resource operation rejection.reason rejection.message
      | .ok () => bound

def addExtraMethod (checker : Checker) (resource : String) (support : Support)
    (method : ExtraMethod) : Support :=
  match checker.checkExtraMethod method with
  | .ok () => { support with extraMethods := support.extraMethods ++ [method] }
  | .error rejection => support.note ⟨resource, method.route, rejection.reason, rejection.message⟩

/-- The operations that a descriptor names by verb and path, each with the place
where it does so: its methods first, then its overrides. -/
def namedOperations (descriptor : Descriptor) : List (Route × String) :=
  (descriptor.extraMethods.map fun method => (⟨method.verb, method.path⟩, method.marker)) ++
    (descriptor.requestUrl.toList ++ descriptor.responseUrl.toList).map fun url =>
      (⟨url.verb, url.path⟩, url.marker)

/-- The failure about the first operation that a descriptor names and the
description does not declare. -/
def undeclared? (checker : Checker) (descriptor : Descriptor) : Option Failure :=
  ((namedOperations descriptor).find? fun (route, _) =>
      !checker.document.hasEndpoint route.verb route.path).map fun (route, marker) =>
    .unknownOperation descriptor.name marker route.verb route.path

def declaresResource (checker : Checker) (paths : ResourcePaths) : Bool :=
  checker.hasAnyEndpoint paths.collection || paths.item.any checker.hasAnyEndpoint

def checkSet (checker : Checker) (resource : String) (set : OperationSet) :
    Except Failure Support :=
  let paths := checker.resourcePaths set.path
  if checker.declaresResource paths then
    .ok ((set.operations.foldl (checker.addOperation resource paths) .empty).cascade resource)
  else
    .error (.unknownResourcePath resource set.path)

def checkOperations (checker : Checker) (descriptor : Descriptor) : Except Failure Support :=
  match descriptor.operationSet with
  | none => .ok .empty
  | some set => checker.checkSet descriptor.name set

/-- Check a descriptor. A verb, a path or a resource that the description does
not know is a failure; anything else excludes single operations and methods. -/
def check (checker : Checker) (descriptor : Descriptor) : Except Failure Support :=
  match checker.undeclared? descriptor with
  | some failure => .error failure
  | none =>
      match checker.checkOperations descriptor with
      | .error failure => .error failure
      | .ok support =>
          .ok (descriptor.extraMethods.foldl (checker.addExtraMethod descriptor.name) support)

end Checker

/-- A remark about an operation that is supported nevertheless. -/
structure Notice where
  message : String
  resource : String
  route : Route
  deriving Repr, DecidableEq, Inhabited

namespace Checker

/-- Whether an answer has a property that identifies an asynchronous task. -/
def hasTaskField (checker : Checker) (route : Route) : Bool :=
  match checker.document.operationSchema route.verb route.path .response with
  | .ok (some found) =>
      checker.policy.asyncTaskFields.any fun field => Keyed.contains field found.schema.properties
  | _ => false

def declaresTask (checker : Checker) (route : Route) : Bool :=
  (checker.document.statusCodes route.verb route.path).contains 202 || checker.hasTaskField route

/-- The remarks about a resource: operations without a summary, then asynchronous
methods that do not say how their task goes on. -/
def notices (checker : Checker) (descriptor : Descriptor) (support : Support) : List Notice :=
  let routes := support.routes.map (·.2) ++
    descriptor.extraMethods.map fun method => ⟨method.verb, method.path⟩
  let unsummarised := routes.filter fun route =>
    (checker.document.summary? route.verb route.path).isNone
  let unfinished := (descriptor.extraMethods.filter (·.isAsync)).filterMap fun method =>
    let route : Route := ⟨method.verb, method.path⟩
    if checker.declaresTask route then none else some route
  (unsummarised.map fun route => ⟨"operation has no summary", descriptor.name, route⟩) ++
    unfinished.map fun route =>
      ⟨"async method declares neither 202 nor a task identifier field", descriptor.name, route⟩

end Checker

end RestModel
