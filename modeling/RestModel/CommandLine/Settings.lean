import RestModel.CommandLine.Arguments
import RestModel.CommandLine.Session
import RestModel.Configuration.Reader
import RestModel.Directive.Registry
import RestModel.Resource.Declaration
import RestModel.Source.Facts

/-! # Settings of a run

A configuration is read from a file, and the command line says what else holds. -/

namespace RestModel.CommandLine

variable {m : Type → Type} [Monad m]

structure Setup where
  vocabulary : String
  description : Option String
  declarations : List String
  wiring : List String
  output : Option String
  policy : Policy
  deriving Repr, DecidableEq

/-! ## Configurations -/

/-- The file of the configuration: the given one, or one of the usual name next to the
description or in the folder of the run. -/
def configurationPath? (files : FileAccess m) (given description : Option String) :
    m (Option String) := do
  if given.isSome then
    return given
  let besides := (description.bind Path.parent?).map fun folder =>
    Path.join folder configurationName
  for path in besides.toList ++ [configurationName] do
    if ← files.contains path then
      return some path
  return none

/-- The configuration in a file, with its paths as seen from the folder of the run. -/
def readConfiguration (files : FileAccess m) (path : String) : Session m Configuration := do
  if !(← Session.use (files.contains path)) then
    throw (.missingConfiguration path)
  let text ← Session.useOrFail (.unreadableConfiguration path) (files.read path)
  match Configuration.ofText? text with
  | some configuration => return configuration.rebase ((Path.parent? path).getD ".")
  | none => throw (.malformedConfiguration path)

def PolicyOptions.apply (options : PolicyOptions) (policy : Policy) : Policy :=
  { policy with
    operationSet := options.operationSet.getD policy.operationSet
    arrayOfPrimitives := options.arrayOfPrimitives.getD policy.arrayOfPrimitives
    aliasComponents := !options.separatesComponents && policy.aliasComponents }

/-- The settings of a command. What the command line says replaces what the
configuration says. -/
def Setup.ofCommand (files : FileAccess m) (command : Command) :
    Session m Setup := do
  let (description, output) := match command.task with
    | .generate description output _ => (description, output)
    | _ => (none, none)
  let sources := command.sources
  let path? ← Session.use (configurationPath? files sources.configuration description)
  let configuration ← match path? with
    | some path => readConfiguration files path
    | none => pure .empty
  let policy ← Session.orFail .policy configuration.policy.resolve
  return {
    vocabulary := (sources.vocabulary.or configuration.vocabulary).getD standardVocabulary
    description := description.or configuration.description
    declarations :=
      if sources.declarations.isEmpty then configuration.declarations
      else sources.declarations
    wiring := if sources.wiring.isEmpty then configuration.wiring else sources.wiring
    output := output.or configuration.output
    policy := command.policy.apply policy }

/-! ## Vocabularies and facts -/

def Setup.readVocabulary (settings : Setup) : Session m Vocabulary := do
  let registry ← Session.orFail (.vocabulary settings.vocabulary)
    (Registry.withBuiltIn settings.vocabulary)
  return ⟨settings.vocabulary, registry, settings.policy.defaultWait⟩

/-- The source files where paths lead, which must all exist. -/
def sourceFiles (files : FileAccess m) (paths : List String) : Session m (List String) := do
  let lists ← paths.mapM fun path => do
    if !(← Session.use (files.contains path)) then
      throw (.missingSource path)
    Session.use (files.sources path)
  return lists.flatten

def factsAt (files : FileAccess m)
    (read : (origin text : String) → Except Source.SourceError (List α))
    (paths : List String) : Session m (List α) := do
  let lists ← (← sourceFiles files paths).mapM fun path => do
    let text ← Session.useOrFail (.unreadableSource path) (files.read path)
    Session.orFail (fun error => .malformedSource path error.message) (read path text)
  return lists.flatten

def Setup.readFacts (settings : Setup) (files : FileAccess m) :
    Session m Facts := do
  let directives ← factsAt files Source.directivesOfText settings.declarations
  let wiring ← factsAt files Source.wiringOfText settings.wiring
  return ⟨directives, wiring⟩

end RestModel.CommandLine
