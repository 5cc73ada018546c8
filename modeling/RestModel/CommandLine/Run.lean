import RestModel.CommandLine.Report
import RestModel.CommandLine.Settings
import RestModel.Document.Reader
import RestModel.Generation.Basic
import RestModel.Generation.Listing
import RestModel.Json.Writer
import RestModel.Lint.Directives
import RestModel.Log.Settings
import RestModel.Resource.Inventory

/-! # Running commands

`run` does what a command line says, through the given access to files. -/

namespace RestModel.CommandLine

variable {m : Type → Type} [Monad m]

/-- Whether the name of a file says that its format is the one with indentation. -/
def isYamlPath (path : String) : Bool :=
  Path.extension? path == some "yaml" || Path.extension? path == some "yml"

def readDescription (files : FileAccess m) (path : String) : Session m Document := do
  let text ← Session.useOrFail (.unreadableDescription path) (files.read path)
  match Document.ofText? (isYamlPath path) text with
  | some document => return document
  | none => throw (.malformedDescription path)

/-- The descriptors of a run. A source that cannot be read is a failure. -/
def readInventory (files : FileAccess m) (settings : Setup)
    (vocabulary : Vocabulary) : Session m Inventory := do
  let asFailure := fun (error : RunError) => RunError.failure (.extraction error.message)
  let facts ← tryCatch (settings.readFacts files) fun error => throw (asFailure error)
  Session.orFail .failure (Inventory.ofFacts vocabulary settings.policy.operationSet facts)

/-- Write a text to a file, in a folder that is made if it is not there. -/
def writeOutput (files : FileAccess m) (path text : String) : Session m Unit := do
  if let some folder := (Path.parent? path).filter (!·.isEmpty) then
    Session.useOrFail (.uncreatableFolder folder) (files.makeFolder folder)
  Session.useOrFail (.unwritableOutput path) (files.write path text)

def generate (files : FileAccess m) (settings : Setup) (failsOnIssues : Bool) :
    Session m Unit := do
  let some path := settings.description | throw .noDescription
  if settings.declarations.isEmpty && settings.wiring.isEmpty then
    throw .noSources
  let document ← readDescription files path
  let vocabulary ← settings.readVocabulary
  let inventory ← readInventory files settings vocabulary
  let generator : Generator :=
    ⟨{ document with listWrapperKeys := settings.policy.listWrapperKeys }, settings.policy⟩
  let model ← Session.orFail .failure (generator.generate inventory.descriptors)
  Session.note (issueLines model.issues)
  match settings.output with
  | some output =>
      writeOutput files output (model.toJson.pretty ++ "\n")
      Session.note ["✅ Wrote " ++ toString model.resources.length ++ " resource(s) and " ++
        toString model.types.length ++ " type(s) to " ++ output]
  | none => Session.print [model.toJson.pretty]
  if failsOnIssues && !model.issues.isEmpty then
    throw (.exclusions model.issues.length)

def lint (files : FileAccess m) (settings : Setup) (failsOnError showsErrorsOnly : Bool) :
    Session m Unit := do
  let vocabulary ← settings.readVocabulary
  let facts ← settings.readFacts files
  let lints ← Session.orFail .failure (lintFacts vocabulary settings.policy.operationSet facts)
  Session.print (lintReport (if showsErrorsOnly then lintsOf .error lints else lints))
  let errors := (lintsOf .error lints).length
  if failsOnError && 0 < errors then
    throw (.findings errors)

def inspect (files : FileAccess m) (settings : Setup) : Session m Unit := do
  let vocabulary ← settings.readVocabulary
  let inventory ← readInventory files settings vocabulary
  let descriptors := inventory.descriptors.map fun (_, descriptor) => descriptor.toJson
  Session.print [(Json.array descriptors).pretty]

def Command.run (files : FileAccess m) (command : Command) : Session m Unit := do
  let settings ← Setup.ofCommand files command
  match command.task with
  | .generate _ _ failsOnIssues => generate files settings failsOnIssues
  | .lint failsOnError showsErrorsOnly => lint files settings failsOnError showsErrorsOnly
  | .inspect => inspect files settings

structure Outcome where
  /-- Zero if all went well, one after an error, two if the command line names no
  command. -/
  code : Nat
  transcript : Transcript
  deriving Repr, DecidableEq

def version : String := "clientgen 0.1.0-alpha.1"

def usage : List String :=
  ["Usage: clientgen [OPTIONS] <COMMAND>", "", "Commands:",
    "  generate  Make the model of a client", "  lint      Look for mistakes in directives",
    "  inspect   Show the descriptors"]

def ruleWarnings (environment : String → Option String) : List String :=
  (Log.Settings.ofVariables environment).invalidRules.map
    ("Warning: Invalid log filter directive: " ++ ·)

def run (files : FileAccess m) (environment : String → Option String)
    (arguments : List String) : m Outcome := do
  match Command.ofArguments arguments with
  | .error .help => return ⟨0, usage, []⟩
  | .error .version => return ⟨0, [version], []⟩
  | .error (.error error) => return ⟨2, [], ["error: " ++ error.message]⟩
  | .ok command =>
      let (result, transcript) ← (command.run files).run.run ⟨[], ruleWarnings environment⟩
      match result with
      | .ok () => return ⟨0, transcript⟩
      | .error error =>
          return ⟨1, transcript.output, transcript.notes ++ ["error: " ++ error.message]⟩

end RestModel.CommandLine
