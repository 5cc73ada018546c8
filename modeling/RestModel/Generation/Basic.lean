import RestModel.Generation.ClientModel
import RestModel.Model.Build
import RestModel.Support.Check

/-! # Generating the model of a client

All descriptors are checked before anything is built. Then the resources are
built in the order of their names. An operation whose types cannot be built is
excluded, so a failure to build leaves a smaller model. -/

namespace RestModel

def BuildError.reason : BuildError → IssueReason
  | .schemaNotFound _ _ => .missingSchema
  | .indeterminate _ => .ambiguousSchema
  | .arrayOfAmbiguousObjects _ => .arrayOfAmbiguousObjects
  | .emptyFields _ => .emptyFields

/-- Where a type of a resource is made from. -/
structure TypeSource where
  operation : Option Operation
  route : Route
  part : Part
  deriving Repr, DecidableEq, Inhabited

def TypeSource.label (source : TypeSource) : String :=
  match source.operation with
  | some operation => operation.name
  | none => source.route.display

structure GenerationState where
  names : List String
  build : BuildState
  deriving Repr, DecidableEq, Inhabited

namespace GenerationState

def empty : GenerationState := ⟨[], .empty⟩

def takeName (state : GenerationState) (name : String) : String × GenerationState :=
  let (name, names) := Naming.takeName state.names name
  (name, { state with names })

end GenerationState

structure Generated (α : Type) where
  value : α
  support : Support
  state : GenerationState

structure Generator where
  document : Document
  policy : Policy

namespace Generator

def checker (generator : Generator) : Checker := ⟨generator.document, generator.policy⟩

def builder (generator : Generator) : Builder :=
  ⟨generator.document, generator.policy.aliasComponents⟩

def isPresent (generator : Generator) (source : TypeSource) : Bool :=
  match generator.document.operationSchema source.route.verb source.route.path source.part with
  | .ok (some _) => true
  | _ => false

/-- Build a type from a source that declares a schema. The name stays taken when
the build fails. -/
def buildType (generator : Generator) (name : String) (role : TypeRole) (source : TypeSource)
    (state : GenerationState) : Except BuildError (Option ResourceType) × GenerationState :=
  if generator.isPresent source then
    let (name, state) := state.takeName name
    match generator.builder.operation name source.route.verb source.route.path source.part
        state.build with
    | .ok body build => (.ok (some ⟨name, role, source.label, body⟩), { state with build })
    | .error problem build => (.error problem, { state with build })
  else
    (.ok none, state)

def overrideSource (url : RouteOverride) (part : Part) : TypeSource :=
  ⟨none, ⟨url.verb, url.path⟩, part⟩

def firstSource (support : Support) (candidates : List (Operation × Part)) :
    Option TypeSource :=
  candidates.findSome? fun (operation, part) =>
    (support.route? operation).map fun route => ⟨some operation, route, part⟩

/-- An override as a source, or else the first of several operations. -/
def overrideOrFirst (url? : Option RouteOverride) (part : Part) (support : Support)
    (candidates : List (Operation × Part)) : Option TypeSource :=
  match url? with
  | some url => some (overrideSource url part)
  | none => firstSource support candidates

/-- Where the answers of a resource are typed: by an override, or else by an
item, a row of a list, or what is created or updated. -/
def responseSource (descriptor : Descriptor) (support : Support) : Option TypeSource :=
  overrideOrFirst descriptor.responseUrl .response support
    [(.read, .response), (.list, .unwrappedResponse), (.create, .response), (.update, .response)]

/-- Where the requests of a resource are typed: by an override, or else by what
is created or updated. -/
def requestSource (descriptor : Descriptor) (support : Support) : Option TypeSource :=
  overrideOrFirst descriptor.requestUrl .request support
    [(.create, .request), (.update, .request)]

def excludeFailed (resource : String) (source : TypeSource) (problem : BuildError)
    (support : Support) : Support :=
  let excluded := match source.operation with
    | some operation => support.exclude resource operation problem.reason problem.message
    | none => support.note ⟨resource, source.label, problem.reason, problem.message⟩
  excluded.cascade resource

/-- Build a type of a resource, or exclude the operation that needs it. -/
def buildOrDrop (generator : Generator) (resource name : String) (role : TypeRole)
    (source : Option TypeSource) (support : Support) (state : GenerationState) :
    Generated (Option ResourceType) :=
  match source with
  | none => ⟨none, support, state⟩
  | some source =>
      match generator.buildType name role source state with
      | (.ok type, state) => ⟨type, support, state⟩
      | (.error problem, state) => ⟨none, excludeFailed resource source problem support, state⟩

def responseType (generator : Generator) (descriptor : Descriptor) (support : Support)
    (state : GenerationState) : Generated (Option ResourceType) :=
  generator.buildOrDrop descriptor.name descriptor.name .responseModel
    (responseSource descriptor support) support state

def requestType (generator : Generator) (descriptor : Descriptor)
    (response : Generated (Option ResourceType)) : Generated (Option ResourceType) :=
  generator.buildOrDrop descriptor.name (descriptor.name ++ "Request") .requestBody
    (requestSource descriptor response.support) response.support response.state

/-- The type of what a list can be searched by: the scalar properties of an item.
There is one only for resources that can be listed and read. -/
def searchParams (generator : Generator) (resource : String) (support : Support)
    (state : GenerationState) : Option ResourceType × GenerationState :=
  if support.supports .list && support.supports .read then
    match support.route? .read with
    | none => (none, state)
    | some route =>
        match generator.document.operationSchema route.verb route.path .response with
        | .ok (some found) =>
            let fields := searchFields found.schema
            if fields.isEmpty then
              (none, state)
            else
              let (name, state) := state.takeName (resource ++ "SearchParams")
              (some ⟨name, .searchParams, Operation.list.name, .fields ⟨fields, none⟩⟩, state)
        | _ => (none, state)
  else
    (none, state)

def methodStem (resource : String) (method : ExtraMethod) : String :=
  resource ++ Naming.camelCase (Text.asciiLower method.verb.name) ++
    Naming.camelCase ((Naming.lastFixedSegment? method.path).getD "")

/-- The types of a method's request and answer, up to the first that cannot be
built. -/
def methodTypes (generator : Generator) (resource : String) (method : ExtraMethod)
    (state : GenerationState) :
    Except BuildError (Option ResourceType × Option ResourceType) × GenerationState :=
  let stem := methodStem resource method
  let source := fun part => TypeSource.mk none ⟨method.verb, method.path⟩ part
  match generator.buildType (stem ++ "Request") .extraRequest (source .request) state with
  | (.error problem, state) => (.error problem, state)
  | (.ok request, state) =>
      match generator.buildType (stem ++ "Response") .extraResponse (source .response) state with
      | (.error problem, state) => (.error problem, state)
      | (.ok response, state) => (.ok (request, response), state)

/-- The models of methods and their types. A method whose types cannot be built
is excluded. -/
def supportedMethods (generator : Generator) (resource : String) (state : GenerationState) :
    List ExtraMethod → List SupportedMethod × List ResourceType × List Issue × GenerationState
  | [] => ([], [], [], state)
  | method :: rest =>
      match generator.methodTypes resource method state with
      | (.error problem, state) =>
          let (models, types, issues, state) := generator.supportedMethods resource state rest
          (models, types, ⟨resource, method.route, problem.reason, problem.message⟩ :: issues,
            state)
      | (.ok (request, response), state) =>
          let (models, types, issues, state) := generator.supportedMethods resource state rest
          let model : SupportedMethod :=
            ⟨method.verb, method.path, method.wait,
              generator.document.summary? method.verb method.path, request.map (·.name),
              response.map (·.name)⟩
          (model :: models, request.toList ++ response.toList ++ types, issues, state)

def supportedOperation (generator : Generator) (request response search : Option String) :
    Operation × Route → SupportedOperation
  | (operation, route) => {
      operation
      route
      summary := generator.document.summary? route.verb route.path
      request := if operation = .create ∨ operation = .update then request else none
      response := if operation = .delete then none else response
      searchParams := if operation = .list then search else none }

def omissionName : OmissionReason → String
  | .ambiguousObject => "AmbiguousObject"
  | .arrayOfAmbiguousObjects => "ArrayOfAmbiguousObjects"
  | .emptyFields => "EmptyFields"

def omissionIssue (resource : String) (omitted : OmittedProperty) : Issue :=
  ⟨resource, omitted.typeName ++ "." ++ omitted.property, .skippedProperty,
    "property skipped: " ++ omissionName omitted.reason⟩

def buildResource (generator : Generator) (descriptor : Descriptor) (support : Support)
    (state : GenerationState) : ResourceModel × GenerationState :=
  let name := descriptor.name
  let response := generator.responseType descriptor support state
  let request := generator.requestType descriptor response
  let support := request.support
  let (search, state) := generator.searchParams name support request.state
  let (methods, methodTypes, methodIssues, state) :=
    generator.supportedMethods name state support.extraMethods
  let (omitted, build) := state.build.takeOmitted
  let resource : ResourceModel := {
    name
    path := descriptor.operationSet.map (·.path)
    operations := support.routes.map
      (generator.supportedOperation (request.value.map (·.name)) (response.value.map (·.name))
        (search.map (·.name)))
    extraMethods := methods
    types := search.toList ++ request.value.toList ++ response.value.toList ++ methodTypes
    requestUrl := descriptor.requestUrl.map fun url => ⟨url.verb, url.path⟩
    responseUrl := descriptor.responseUrl.map fun url => ⟨url.verb, url.path⟩
    issues := support.issues ++ methodIssues ++ omitted.map (omissionIssue name) }
  (resource, { state with build })

def checkAll (generator : Generator) : List Descriptor →
    Except Failure (List (Descriptor × Support))
  | [] => .ok []
  | descriptor :: rest => do
      let support ← generator.checker.check descriptor
      let others ← generator.checkAll rest
      return (descriptor, support) :: others

def buildAll (generator : Generator) (state : GenerationState) :
    List (Descriptor × Support) → List ResourceModel × GenerationState
  | [] => ([], state)
  | (descriptor, support) :: rest =>
      let (resource, state) := generator.buildResource descriptor support state
      let (others, state) := generator.buildAll state rest
      (resource :: others, state)

def inOrder (descriptors : List (String × Descriptor)) : List Descriptor :=
  (Keyed.values descriptors).mergeSort fun left right => !decide (right.name < left.name)

/-- Generate the model of a client from descriptors, in the order of their names. -/
def generate (generator : Generator) (descriptors : List (String × Descriptor)) :
    Except Failure ClientModel := do
  let checked ← generator.checkAll (inOrder descriptors)
  let (resources, state) := generator.buildAll .empty checked
  return ⟨resources, Keyed.values state.build.types, ComponentMention.sort state.build.mentions⟩

/-- The remarks about all resources, if they pass their checks. -/
def notices (generator : Generator) (descriptors : List (String × Descriptor)) : List Notice :=
  match generator.checkAll (inOrder descriptors) with
  | .error _ => []
  | .ok checked => checked.flatMap fun (descriptor, support) =>
      generator.checker.notices descriptor support

end Generator

end RestModel
