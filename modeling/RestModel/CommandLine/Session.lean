import RestModel.Configuration.Basic
import RestModel.Failure
import RestModel.Files.Basic

/-! # Runs of commands

A run uses files, prints lines and may end with an error. What it printed before an
error stays printed. -/

namespace RestModel.CommandLine

def configurationName : String := "clientgen.toml"

inductive RunError where
  | missingConfiguration (path : String)
  | unreadableConfiguration (path : String) (problem : FileProblem)
  | malformedConfiguration (path : String)
  | policy (error : PolicyError)
  | noDescription
  | noSources
  | unreadableDescription (path : String) (problem : FileProblem)
  | malformedDescription (path : String)
  | vocabulary (name : String) (error : RegistryError)
  | missingSource (path : String)
  | unreadableSource (path : String) (problem : FileProblem)
  | malformedSource (path message : String)
  | failure (cause : Failure)
  | uncreatableFolder (path : String) (problem : FileProblem)
  | unwritableOutput (path : String) (problem : FileProblem)
  | findings (count : Nat)
  | exclusions (count : Nat)
  deriving Repr, DecidableEq

def exclusionCount (count : Nat) : String :=
  toString count ++ " operation(s) or propert(ies) excluded"

def RunError.message : RunError → String
  | .missingConfiguration path => "config file " ++ path ++ " does not exist"
  | .unreadableConfiguration path problem =>
      "Failed to read config: " ++ path ++ ": " ++ problem.message
  | .malformedConfiguration path => "Failed to parse config: " ++ path
  | .policy error => error.message
  | .noDescription =>
      "no OpenAPI document given; pass --spec or set `spec` in " ++ configurationName
  | .noSources =>
      "no sources given; pass --resources/--wiring or set them in " ++ configurationName
  | .unreadableDescription path problem =>
      "failed to read OpenAPI document " ++ path ++ ": " ++ problem.message
  | .malformedDescription path => "failed to parse OpenAPI document " ++ path
  | .vocabulary name error =>
      "invalid annotation namespace `" ++ name ++ "`: " ++ error.message
  | .missingSource path => "source path " ++ path ++ " does not exist"
  | .unreadableSource path problem => "failed to read " ++ path ++ ": " ++ problem.message
  | .malformedSource path message => "failed to parse " ++ path ++ ": " ++ message
  | .failure cause => cause.message
  | .uncreatableFolder path problem => "failed to create " ++ path ++ ": " ++ problem.message
  | .unwritableOutput path problem => "failed to write " ++ path ++ ": " ++ problem.message
  | .findings count => toString count ++ " lint error(s) found"
  | .exclusions count => exclusionCount count

/-- The lines that a run has printed. -/
structure Transcript where
  output : List String
  notes : List String
  deriving Repr, DecidableEq

/-- A part of a run. -/
abbrev Session (m : Type → Type) := ExceptT RunError (StateT Transcript m)

namespace Session

variable {m : Type → Type} [Monad m]

def use (action : m α) : Session m α := ExceptT.lift (StateT.lift action)

/-- Use files, where a problem ends the run. -/
def useOrFail (asError : FileProblem → RunError) (action : m (Except FileProblem α)) :
    Session m α := do
  match ← use action with
  | .ok value => return value
  | .error problem => throw (asError problem)

def print (lines : List String) : Session m Unit :=
  modify fun transcript => { transcript with output := transcript.output ++ lines }

def note (lines : List String) : Session m Unit :=
  modify fun transcript => { transcript with notes := transcript.notes ++ lines }

def orFail (asError : ε → RunError) (result : Except ε α) : Session m α :=
  match result with
  | .ok value => pure value
  | .error error => throw (asError error)

end Session

end RestModel.CommandLine
