import RestModel.Resource.Inventory

/-! # Checking directives

Directives are checked against the registry, each by itself and then together,
without regard to any description. -/

namespace RestModel

namespace Directive

/-- The targets beside a given one at which a directive's marker is known. -/
def otherTargets (registry : Registry) (directive : Directive) (target : Target) :
    List Target :=
  [Target.package, .type, .field].filter fun other =>
    other != target && (registry.lookup? directive.text other).isSome

def unknownLint (vocabulary : Vocabulary) (directive : Directive) (target : Target)
    (location : String) : Lint :=
  match directive.otherTargets vocabulary.registry target with
  | [] =>
      .error location .unknownMarker
        ("`" ++ directive.markerName ++ "` is not a registered " ++ vocabulary.name ++ " marker")
  | others =>
      (Lint.error location .wrongTarget
        ("`" ++ directive.markerName ++ "` cannot be attached to a " ++ target.name)).suggesting
          ("Attach it to a " ++ Text.join " or " (others.map (·.name)))

def takesPath : Feature → Bool
  | .skip | .other _ => false
  | _ => true

def pathLints (directive : Directive) (location : String) : List Lint :=
  match directive.payload with
  | none => []
  | some payload =>
      if takesPath directive.feature && !Text.beginsWith "/" payload then
        [(Lint.warning location .relativePath
          ("`" ++ directive.text ++ "` declares a path that does not start with `/`")).suggesting
            ("Use `/" ++ payload ++ "`")]
      else
        []

/-- The findings about one directive by itself. Texts that are no directives
are left to the reading of all of them. -/
def lintText (vocabulary : Vocabulary) (text : String) (target : Target) (location : String) :
    List Lint :=
  match ofText text with
  | .error _ => []
  | .ok directive =>
      if directive.vocabulary ≠ vocabulary.name then
        []
      else
        match vocabulary.registry.lookup? directive.text target with
        | none => [directive.unknownLint vocabulary target location]
        | some definition =>
            match definition.readPayload directive.payload with
            | .error problem => [.error location .invalidPayload problem.message]
            | .ok _ => directive.pathLints location

end Directive

namespace Facts

def directiveLints (vocabulary : Vocabulary) (facts : Facts) : List Lint :=
  (facts.directives.flatMap fun fact =>
      Directive.lintText vocabulary fact.text fact.target fact.location) ++
    facts.wiring.flatMap fun fact =>
      fact.directiveLines.flatMap fun line =>
        Directive.lintText vocabulary line .field fact.location

/-- The findings about all directives together. A rejected operation set ends
their reading, and is the only thing found then. -/
def inventoryLints (vocabulary : Vocabulary) (policy : OperationSetPolicy) (facts : Facts) :
    Except Failure (List Lint) :=
  match Inventory.ofFacts vocabulary policy facts with
  | .ok inventory => .ok inventory.lints
  | .error (.duplicateOperationSet resource marker) =>
      .ok [.error resource .duplicateOperationSet
        ("`" ++ marker ++ "` repeats an operation set; rejected by policy")]
  | .error failure => .error failure

end Facts

namespace Lint

/-- Whether a finding is listed before another, or they are listed as they come:
by severity, place and kind. -/
def isListedFirst (lint other : Lint) : Bool :=
  if lint.severity.rank ≠ other.severity.rank then lint.severity.rank < other.severity.rank
  else if lint.location ≠ other.location then lint.location < other.location
  else !decide (other.kind.name < lint.kind.name)

def hasErrors (lints : List Lint) : Bool := lints.any (·.severity = .error)

end Lint

def lintFacts (vocabulary : Vocabulary) (policy : OperationSetPolicy) (facts : Facts) :
    Except Failure (List Lint) := do
  let inventoryLints ← facts.inventoryLints vocabulary policy
  return (facts.directiveLints vocabulary ++ inventoryLints).mergeSort Lint.isListedFirst

end RestModel
