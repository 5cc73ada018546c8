import RestModel.Failure
import RestModel.Keyed
import RestModel.Policy.Basic
import RestModel.Resource.Declaration
import RestModel.Resource.Fact

/-! # Descriptors from directives

The directives of each type are folded into one descriptor, in order. Types are
taken in the order of their names. -/

namespace RestModel

/-- What the directives of a type read so far amount to. -/
structure DeclaredType where
  descriptor : Descriptor
  recognised : Bool
  skipped : Bool
  deriving Repr, DecidableEq

namespace DeclaredType

def empty (name : String) (origin : Option String) : DeclaredType :=
  ⟨{ Descriptor.empty name with origin }, false, false⟩

/-- The same type with another descriptor that makes it a resource. -/
def recognise (type : DeclaredType) (descriptor : Descriptor) : DeclaredType :=
  { type with descriptor, recognised := true }

def repeatedSet (set existing : OperationSet) (location : String) : Lint :=
  (Lint.warning location .duplicateOperationSet
    ("`" ++ set.marker ++ "` repeats the operation set already declared by `" ++
      existing.marker ++ "`")).suggesting "Declare a single ops marker per resource"

def repeatedOverride (url : RouteOverride) (location : String) : Lint :=
  .warning location .duplicateUrlOverride
    ("`" ++ url.marker ++ "` ignored; an override is already declared")

/-- Declare an operation set. Of several sets, the policy decides. -/
def declareSet (policy : OperationSetPolicy) (type : DeclaredType) (set : OperationSet)
    (location : String) : Except Failure (Reading DeclaredType) :=
  let descriptor := type.descriptor
  match descriptor.operationSet with
  | none => .ok ⟨type.recognise { descriptor with operationSet := some set }, []⟩
  | some existing =>
      let lints := [repeatedSet set existing location]
      match policy with
      | .firstWins => .ok ⟨type.recognise descriptor, lints⟩
      | .lastWins => .ok ⟨type.recognise { descriptor with operationSet := some set }, lints⟩
      | .reject => .error (.duplicateOperationSet descriptor.name set.marker)

def declare (policy : OperationSetPolicy) (type : DeclaredType) (declaration : Declaration)
    (location : String) : Except Failure (Reading DeclaredType) :=
  let descriptor := type.descriptor
  match declaration with
  | .skip skipped => .ok ⟨{ type with skipped := type.skipped || skipped }, []⟩
  | .operations set => type.declareSet policy set location
  | .extraMethods methods =>
      .ok ⟨type.recognise (descriptor.addExtraMethods methods), []⟩
  | .requestUrl url =>
      match descriptor.requestUrl with
      | none => .ok ⟨type.recognise { descriptor with requestUrl := some url }, []⟩
      | some _ => .ok ⟨type.recognise descriptor, [repeatedOverride url location]⟩
  | .responseUrl url =>
      match descriptor.responseUrl with
      | none => .ok ⟨type.recognise { descriptor with responseUrl := some url }, []⟩
      | some _ => .ok ⟨type.recognise descriptor, [repeatedOverride url location]⟩
  | .details path =>
      let legacy := { descriptor.legacy with details := descriptor.legacy.details <|> some path }
      .ok ⟨type.recognise { descriptor with legacy }, []⟩
  | .upsert path =>
      let legacy := { descriptor.legacy with upsert := descriptor.legacy.upsert <|> some path }
      .ok ⟨type.recognise { descriptor with legacy }, []⟩

def addFact (vocabulary : Vocabulary) (policy : OperationSetPolicy)
    (basePaths : List (String × String)) (type : DeclaredType) (fact : DirectiveFact) :
    Except Failure (Reading DeclaredType) :=
  let location := fact.location
  let reading :=
    Declaration.ofText vocabulary (Keyed.get? fact.origin basePaths) fact.text location
  match reading.value with
  | none => .ok ⟨type, reading.lints⟩
  | some declaration =>
      (type.declare policy declaration location).map fun declared =>
        ⟨declared.value, reading.lints ++ declared.lints⟩

def addFacts (vocabulary : Vocabulary) (policy : OperationSetPolicy)
    (basePaths : List (String × String)) (type : DeclaredType) :
    List DirectiveFact → Except Failure (Reading DeclaredType)
  | [] => .ok ⟨type, []⟩
  | fact :: rest => do
      let first ← type.addFact vocabulary policy basePaths fact
      let others ← first.value.addFacts vocabulary policy basePaths rest
      return ⟨others.value, first.lints ++ others.lints⟩

end DeclaredType

structure Declared where
  descriptors : List (String × Descriptor)
  /-- The types that are left out; wiring must not bring them back. -/
  skipped : List String
  lints : List Lint
  deriving Repr, DecidableEq

namespace Declared

def basePathOf (vocabulary : Vocabulary) (fact : DirectiveFact) : Reading (Option String) :=
  match Directive.readOwn vocabulary.name fact.text fact.origin with
  | ⟨none, lints⟩ => ⟨none, lints⟩
  | ⟨some directive, lints⟩ =>
      if directive.feature = .basePath ∧
          (vocabulary.registry.lookup? directive.text .package).isSome then
        ⟨directive.payload, lints⟩
      else
        ⟨none, lints⟩

/-- The base path of every file that declares one; the last one counts. -/
def basePaths (vocabulary : Vocabulary) (facts : List DirectiveFact) : List (String × String) :=
  facts.foldl (fun paths fact =>
    match (basePathOf vocabulary fact).value with
    | some path => Keyed.insert fact.origin path paths
    | none => paths) []

def byType (facts : List DirectiveFact) : List (String × List DirectiveFact) :=
  facts.foldl (fun types fact => Keyed.alter fact.declaration [] (· ++ [fact]) types) []

def typesOf (vocabulary : Vocabulary) (policy : OperationSetPolicy)
    (basePaths : List (String × String)) :
    List (String × List DirectiveFact) → Except Failure (List (Reading DeclaredType))
  | [] => .ok []
  | (name, facts) :: rest => do
      let start := DeclaredType.empty name (facts.head?.map (·.origin))
      let first ← start.addFacts vocabulary policy basePaths facts
      let others ← typesOf vocabulary policy basePaths rest
      return first :: others

/-- The descriptor of a type that is a resource and not left out. -/
def descriptor? (type : DeclaredType) : Option (String × Descriptor) :=
  if type.recognised && !type.skipped then
    some (type.descriptor.name, type.descriptor)
  else
    none

/-- The descriptors that the directives of files and types amount to. Directives
of fields are left to the wiring. -/
def ofDirectives (vocabulary : Vocabulary) (policy : OperationSetPolicy)
    (facts : List DirectiveFact) : Except Failure Declared := do
  let packageFacts := facts.filter (·.target = .package)
  let typeFacts := facts.filter (·.target = .type)
  let paths := basePaths vocabulary packageFacts
  let types ← typesOf vocabulary policy paths (byType typeFacts)
  let packageLints :=
    packageFacts.flatMap fun fact => (basePathOf vocabulary fact).lints
  return {
    descriptors := types.filterMap fun type => descriptor? type.value
    skipped := (types.filter (·.value.skipped)).map (·.value.descriptor.name)
    lints := packageLints ++ types.flatMap (·.lints) }

end Declared

namespace Descriptor

/-- The operations that the markers of single purposes imply. -/
def legacyOperations (legacy : LegacyPaths) : List Operation :=
  (if legacy.details.isSome then [.read] else []) ++
    (if legacy.upsert.isSome then [.create, .update] else [])

def legacySet? (vocabulary : String) (legacy : LegacyPaths) : Option OperationSet :=
  let set := fun (feature path : String) =>
    OperationSet.of (legacyOperations legacy) path
      ("+" ++ vocabulary ++ ":" ++ feature ++ "=" ++ path)
  match legacy.upsert, legacy.details with
  | some path, _ => some (set "upsert" path)
  | none, some path => some (set "details" path)
  | none, none => none

/-- Give a resource without an operation set the one that its markers of single
purposes imply. -/
def withLegacySet (vocabulary : String) (descriptor : Descriptor) : Descriptor :=
  { descriptor with
    operationSet := descriptor.operationSet <|> legacySet? vocabulary descriptor.legacy }

end Descriptor

end RestModel
