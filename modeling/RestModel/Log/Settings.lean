import RestModel.Log.Filter
import RestModel.Text.Blank
import RestModel.Text.Pieces

/-! # Settings of messages

Variables of the environment say which messages of a run are shown, and how. -/

namespace RestModel.Log

structure Settings where
  levelName : String
  isStructured : Bool
  /-- Further rules of the filter, with commas between them. -/
  targets : Option String
  showsPlace : Bool
  deriving DecidableEq, Repr

namespace Settings

def variableNames : List String :=
  ["CLIENTGEN_LOG_LEVEL", "CLIENTGEN_LOG_FORMAT", "CLIENTGEN_LOG_TARGET_FILTER",
    "CLIENTGEN_LOG_INCLUDE_LOCATION"]

def ofVariables (lookup : String → Option String) : Settings where
  levelName := (lookup "CLIENTGEN_LOG_LEVEL").getD "warn"
  isStructured := (lookup "CLIENTGEN_LOG_FORMAT").any fun format =>
    format.map Char.toLower == "json"
  targets := (lookup "CLIENTGEN_LOG_TARGET_FILTER").filter fun targets =>
    !Text.isBlankText targets
  showsPlace := lookup "CLIENTGEN_LOG_INCLUDE_LOCATION" == some "true"

/-- The level of a setting; that of warnings for a name that is not known. -/
def level (settings : Settings) : Level :=
  let name := settings.levelName.map Char.toLower
  (([.trace, .debug, .info, .error] : List Level).find? fun level => level.name == name).getD
    .warn

def ruleTexts (settings : Settings) : List String :=
  match settings.targets with
  | none => []
  | some targets => (Text.pieces ',' targets).filterMap Text.nonBlank?

/-- The filter of the settings. A rule that cannot be read is left out. -/
def filter (settings : Settings) : Filter :=
  (settings.ruleTexts.filterMap Rule.ofText?).foldl Filter.add (.ofLevel settings.level)

def invalidRules (settings : Settings) : List String :=
  settings.ruleTexts.filter fun text => (Rule.ofText? text).isNone

end Settings

end RestModel.Log
