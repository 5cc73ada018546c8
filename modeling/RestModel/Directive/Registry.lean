import RestModel.Directive.Payload

/-! # The registry of markers

The registry holds a definition for every marker and every target that the
marker may stand at. The first definition of a marker for a target stays. -/

namespace RestModel

structure Marker where
  name : String
  target : Target
  shape : PayloadShape
  description : String
  deriving Repr, DecidableEq, Inhabited

def Marker.readPayload (definition : Marker) (payload : Option String) :
    Except DirectiveError PayloadValue :=
  match payload.bind Text.nonBlank? with
  | some raw => definition.shape.read raw
  | none =>
      if definition.shape.isOptional then .ok .absent
      else .error (.missingPayload definition.name)

/-- The markers that are known, ordered by name and target. -/
structure Registry where
  definitions : List Marker
  deriving Repr, DecidableEq, Inhabited

namespace Registry

def empty : Registry := ⟨[]⟩

def find? (registry : Registry) (name : String) (target : Target) : Option Marker :=
  registry.definitions.find? fun definition =>
    definition.name = name ∧ definition.target = target

def isListedBefore (definition other : Marker) : Bool :=
  definition.name < other.name ||
    (definition.name = other.name && definition.target.rank < other.target.rank)

def insertDefinition (definition : Marker) :
    List Marker → List Marker
  | [] => [definition]
  | other :: rest =>
      if isListedBefore definition other then definition :: other :: rest
      else other :: insertDefinition definition rest

/-- Whether a marker may have a name: it is not empty, does not start with a
plus sign and holds no equals sign. -/
def isMarkerName (name : String) : Bool :=
  match name.toList with
  | [] => false
  | first :: rest => first != '+' && !(first :: rest).contains '='

/-- Register a marker. A definition that is registered already changes nothing. -/
def register (registry : Registry) (definition : Marker) :
    Except RegistryError Registry :=
  if !isMarkerName definition.name then
    .error (.invalidName definition.name)
  else
    match definition.shape.check definition.name with
    | .error problem => .error problem
    | .ok () =>
        match registry.find? definition.name definition.target with
        | some known =>
            if known = definition then .ok registry
            else .error (.conflictingDefinition definition.name definition.target)
        | none => .ok ⟨insertDefinition definition registry.definitions⟩

def registerAll (registry : Registry) : List Marker → Except RegistryError Registry
  | [] => .ok registry
  | definition :: rest => do
      let registry ← registry.register definition
      registry.registerAll rest

def builtIn (vocabulary : String) : List Marker :=
  let marker (feature : Feature) (target : Target) (shape : PayloadShape) (description : String) :
      Marker :=
    ⟨vocabulary ++ ":" ++ feature.name, target, shape, description⟩
  let extra := "non-CRUD method: verb list and path template"
  let asyncExtra := "asynchronous non-CRUD method with an optional wait option"
  [marker .operations .type .string
      "CRUD operation set (letters C, L, R, U, D) and resource path",
    marker .extraMethod .type .string extra,
    marker .asyncExtraMethod .type .string asyncExtra,
    marker .extraMethod .field .string extra,
    marker .asyncExtraMethod .field .string asyncExtra,
    marker .requestUrl .type .string
      "operation whose request body types the resource request model",
    marker .responseUrl .type .string "operation whose response types the resource model",
    marker .details .type .string "legacy: resource supports Read at this path",
    marker .upsert .type .string "legacy: resource supports Create and Update at this path",
    marker .basePath .package .string "path prefix applied to every path declared in the file",
    marker .skip .type (.optional .bool) "exclude the type from generation"]

def withBuiltIn (vocabulary : String) : Except RegistryError Registry :=
  empty.registerAll (builtIn vocabulary)

/-- The name in the text of a directive: what stands before its payload and
its option, without the sigil. -/
def nameIn (text : String) : String :=
  let text := Text.trimChars text.toList
  let text := match text with
    | '+' :: rest => rest
    | text => text
  String.ofList
    (Text.trimChars ((text.takeWhile (· != '=')).takeWhile (· != '[')))

/-- A name and its beginnings that end before a colon, longest first. -/
def leadingNames (name : String) : List String :=
  let segments := Text.pieces ':' name
  (List.range segments.length).map fun dropped =>
    Text.join ":" (segments.take (segments.length - dropped))

/-- The definition that a directive refers to, given as its text or by name:
the one with the longest name that begins the directive's name. -/
def lookup? (registry : Registry) (text : String) (target : Target) : Option Marker :=
  (leadingNames (nameIn text)).findSome? fun name => registry.find? name target

end Registry

end RestModel
