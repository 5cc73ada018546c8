import RestModel.Keyed
import RestModel.Resource.Declaration
import RestModel.Resource.Fact

/-! # Descriptors from wiring

Handles of resources in hand-written code describe resources too. Where a
resource is described by directives as well, the directives win. -/

namespace RestModel

namespace WiringFact

/-- The operation set of a handle that has a base path. -/
def operationSet? (fact : WiringFact) : Option OperationSet :=
  match fact.basePath with
  | none => none
  | some path =>
      if Text.isBlankText path then
        none
      else
        some (.of (fact.operations.filterMap Operation.ofIdentifier?) path
          ("wiring:" ++ fact.field))

def operationLints (fact : WiringFact) : List Lint :=
  (fact.operations.filter fun identifier =>
      (Operation.ofIdentifier? identifier).isNone).map fun identifier =>
    .warning fact.location .unknownOperationLetter
      ("wiring for `" ++ fact.resource ++ "` passes unknown operation `" ++ identifier ++ "`")

def lineMethods (vocabulary : Vocabulary) (location line : String) :
    Reading (List ExtraMethod) :=
  match Directive.readOwn vocabulary.name line location with
  | ⟨none, lints⟩ => ⟨[], lints⟩
  | ⟨some directive, lints⟩ =>
      if (vocabulary.registry.lookup? directive.text .field).isSome ∧
          (directive.feature = .extraMethod ∨ directive.feature = .asyncExtraMethod) then
        match directive.requirePayload with
        | .error problem =>
            ⟨[], lints ++ [.error location .missingPayload problem.message]⟩
        | .ok path =>
            let methods := directive.extraMethods path vocabulary.defaultWait location
            ⟨methods.value, lints ++ methods.lints⟩
      else
        ⟨[], lints⟩

def methodReadings (vocabulary : Vocabulary) (fact : WiringFact) :
    List (Reading (List ExtraMethod)) :=
  fact.directiveLines.map (lineMethods vocabulary fact.location)

def descriptor (vocabulary : Vocabulary) (fact : WiringFact) : Descriptor :=
  let start :=
    { Descriptor.empty fact.resource with
      origin := some fact.origin, operationSet := fact.operationSet? }
  start.addExtraMethods ((fact.methodReadings vocabulary).flatMap (·.value))

def lints (vocabulary : Vocabulary) (fact : WiringFact) : List Lint :=
  fact.operationLints ++ (fact.methodReadings vocabulary).flatMap (·.lints)

end WiringFact

namespace Descriptor

/-- Add to a descriptor what another one of the same resource declares: an
operation set if there is none, and all methods that are new. -/
def absorb (descriptor other : Descriptor) : Descriptor :=
  let combined := { descriptor with operationSet := descriptor.operationSet <|> other.operationSet }
  combined.addExtraMethods other.extraMethods

end Descriptor

def addWired (wired : List (String × Descriptor)) (descriptor : Descriptor) :
    List (String × Descriptor) :=
  match Keyed.get? descriptor.name wired with
  | some existing => Keyed.insert descriptor.name (existing.absorb descriptor) wired
  | none => Keyed.insert descriptor.name descriptor wired

/-- The descriptors of all handles, one for each resource. -/
def wiredDescriptors (vocabulary : Vocabulary) (facts : List WiringFact) :
    Reading (List (String × Descriptor)) :=
  ⟨(facts.map (·.descriptor vocabulary)).foldl addWired [],
    facts.flatMap (·.lints vocabulary)⟩

def mergeOne (skipped : List String) (declared : List (String × Descriptor))
    (descriptor : Descriptor) : List (String × Descriptor) :=
  if skipped.contains descriptor.name then
    declared
  else
    match Keyed.get? descriptor.name declared with
    | some existing => Keyed.insert descriptor.name (existing.absorb descriptor) declared
    | none =>
        if descriptor.operationSet.isSome then
          Keyed.insert descriptor.name descriptor declared
        else
          declared

/-- Merge descriptors of handles into those of directives. A resource without
directives needs a base path, and one that is left out stays out. -/
def mergeWiring (declared : List (String × Descriptor)) (wiring : List Descriptor)
    (skipped : List String) : List (String × Descriptor) :=
  wiring.foldl (mergeOne skipped) declared

end RestModel
