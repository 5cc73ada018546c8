import RestModel.Configuration.Basic
import RestModel.Policy.Reader
import RestModel.Toml.Reader

/-! # Reading configurations -/

namespace RestModel.Configuration

def isHollow : Json → Bool
  | .array [] => true
  | .object [] => true
  | _ => false

/-- Read the policy of a configuration: a table, or a list of its first members. -/
def policyOf? : Json → Option PolicySettings
  | .object members => PolicySettings.ofMembers? isHollow members
  | .array items =>
      PolicySettings.ofMembers? isHollow (PolicySettings.memberNames.zip items)
  | _ => none

def memberNames : List String := ["namespace", "spec", "resources", "wiring", "output", "policy"]

/-- Read a list of texts that may be absent, and is then empty. -/
def readPaths (value : Option Json) : Option (List String) :=
  match value with
  | none => some []
  | some value => readTexts value

def ofMembers? (members : List (String × Json)) : Option Configuration := do
  let member := fun name => Keyed.get? name members
  if !hasOnly memberNames members then
    none
  let vocabulary ← readOptional Json.text? (member "namespace")
  let description ← readOptional Json.text? (member "spec")
  let declarations ← readPaths (member "resources")
  let wiring ← readPaths (member "wiring")
  let output ← readOptional Json.text? (member "output")
  let policy ← readOptional policyOf? (member "policy")
  return ⟨vocabulary, description, declarations, wiring, output, policy.getD .empty⟩

def ofText? (text : String) : Option Configuration := do
  ofMembers? (← (← Toml.read? text).members?)

end RestModel.Configuration
