import RestModel.Directive.Wait
import RestModel.Text.Case
import RestModel.Verb

/-! # Policies

A policy settles what directives and descriptions leave open. Settings are a
policy as it is written, with every part optional. -/

namespace RestModel

/-- What to do about a second operation set of a resource. -/
inductive OperationSetPolicy where
  | firstWins
  | lastWins
  | reject
  deriving Repr, DecidableEq, Inhabited

namespace OperationSetPolicy

def name : OperationSetPolicy → String
  | .firstWins => "first-wins"
  | .lastWins => "last-wins"
  | .reject => "reject"

def ofName? : String → Option OperationSetPolicy
  | "first-wins" => some .firstWins
  | "last-wins" => some .lastWins
  | "reject" => some .reject
  | _ => none

end OperationSetPolicy

/-- Whether a resource that lists as an array of scalars can be listed. -/
inductive PrimitiveArrayPolicy where
  | exclude
  | allow
  deriving Repr, DecidableEq, Inhabited

namespace PrimitiveArrayPolicy

def name : PrimitiveArrayPolicy → String
  | .exclude => "exclude"
  | .allow => "allow"

def ofName? : String → Option PrimitiveArrayPolicy
  | "exclude" => some .exclude
  | "allow" => some .allow
  | _ => none

end PrimitiveArrayPolicy

structure Policy where
  operationSet : OperationSetPolicy
  arrayOfPrimitives : PrimitiveArrayPolicy
  aliasComponents : Bool
  /-- The verbs tried in turn for an update. -/
  updateMethods : List Verb
  /-- The statuses that confirm an answer without a body. -/
  noContentStatuses : List Nat
  defaultWait : Wait
  listWrapperKeys : List String
  asyncTaskFields : List String
  deriving Repr, DecidableEq, Inhabited

def Policy.standard : Policy where
  operationSet := .firstWins
  arrayOfPrimitives := .exclude
  aliasComponents := true
  updateMethods := [.put, .patch]
  noContentStatuses := [204]
  defaultWait := .standard
  listWrapperKeys := ["items", "data", "results"]
  asyncTaskFields := ["task_id", "operation_id", "job_id"]

/-- A policy as it is written. -/
structure PolicySettings where
  operationSet : Option OperationSetPolicy
  arrayOfPrimitives : Option PrimitiveArrayPolicy
  aliasComponents : Option Bool
  updateMethods : Option (List String)
  noContentStatuses : Option (List Nat)
  defaultWait : Option String
  listWrapperKeys : Option (List String)
  asyncTaskFields : Option (List String)
  deriving Repr, DecidableEq, Inhabited

def PolicySettings.empty : PolicySettings :=
  ⟨none, none, none, none, none, none, none, none⟩

inductive PolicyError where
  | unsupportedUpdateMethod (method : String)
  | noUpdateMethods
  | unsupportedDefaultWait (literal : String)
  deriving Repr, DecidableEq, Inhabited

def PolicyError.message : PolicyError → String
  | .unsupportedUpdateMethod method =>
      "unsupported update method `" ++ method ++ "` (expected PUT, PATCH or POST)"
  | .noUpdateMethods => "policy.update_methods must not be empty"
  | .unsupportedDefaultWait literal => "unsupported policy.default_wait `" ++ literal ++ "`"

namespace PolicySettings

def updateVerb? (name : String) : Option Verb :=
  [Verb.put, Verb.patch, Verb.post].find? fun verb => verb.name == Text.asciiUpper name

/-- The verbs of updates, up to the first that cannot update. -/
def updateVerbs : List String → Except PolicyError (List Verb)
  | [] => .ok []
  | name :: rest =>
      match updateVerb? name with
      | none => .error (.unsupportedUpdateMethod name)
      | some verb => do
          let others ← updateVerbs rest
          return verb :: others

/-- The policy of settings, with the standard where they say nothing. -/
def resolve (settings : PolicySettings) : Except PolicyError Policy := do
  let updateMethods ← match settings.updateMethods with
    | none => .ok Policy.standard.updateMethods
    | some names => updateVerbs names
  if updateMethods.isEmpty then
    throw .noUpdateMethods
  let defaultWait ← match settings.defaultWait with
    | none => .ok Policy.standard.defaultWait
    | some literal =>
        match Wait.ofLiteral? literal with
        | some wait => .ok wait
        | none => .error (.unsupportedDefaultWait literal)
  return {
    operationSet := settings.operationSet.getD Policy.standard.operationSet
    arrayOfPrimitives := settings.arrayOfPrimitives.getD Policy.standard.arrayOfPrimitives
    aliasComponents := settings.aliasComponents.getD Policy.standard.aliasComponents
    updateMethods
    noContentStatuses := settings.noContentStatuses.getD Policy.standard.noContentStatuses
    defaultWait
    listWrapperKeys := settings.listWrapperKeys.getD Policy.standard.listWrapperKeys
    asyncTaskFields := settings.asyncTaskFields.getD Policy.standard.asyncTaskFields }

end PolicySettings

end RestModel
