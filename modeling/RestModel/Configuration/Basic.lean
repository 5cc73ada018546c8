import RestModel.Path
import RestModel.Policy.Basic

/-! # Configurations

A configuration says where a run finds its parts, and under which policy. Every
part is optional. -/

namespace RestModel

structure Configuration where
  /-- The name before the colon of a directive. -/
  vocabulary : Option String
  description : Option String
  declarations : List String
  wiring : List String
  output : Option String
  policy : PolicySettings
  deriving Repr, DecidableEq, Inhabited

/-- The name before the colon of a directive where nothing else is said. -/
def standardVocabulary : String := "clientgen"

namespace Configuration

def empty : Configuration := ⟨none, none, [], [], none, .empty⟩

/-- A configuration with its paths as seen from a base. -/
def rebase (base : String) (configuration : Configuration) : Configuration :=
  { configuration with
    description := configuration.description.map (Path.join base)
    declarations := configuration.declarations.map (Path.join base)
    wiring := configuration.wiring.map (Path.join base)
    output := configuration.output.map (Path.join base) }

end Configuration

end RestModel
