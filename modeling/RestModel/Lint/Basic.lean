/-! # Findings about directives -/

namespace RestModel

/-- How much a finding matters, most serious first. -/
inductive Severity where
  /-- The directive is ignored, or no model could be made. -/
  | error
  /-- Something else was assumed in its place. -/
  | warning
  | info
  deriving Repr, DecidableEq, Inhabited

namespace Severity

def all : List Severity := [.error, .warning, .info]

def name : Severity → String
  | .error => "error"
  | .warning => "warning"
  | .info => "info"

def rank : Severity → Nat
  | .error => 0
  | .warning => 1
  | .info => 2

end Severity

inductive LintKind where
  | malformedDirective
  | unknownMarker
  | wrongTarget
  | invalidPayload
  | missingPayload
  | relativePath
  | unknownOperationLetter
  | duplicateOperationSet
  | duplicateUrlOverride
  | unsupportedVerb
  | unsupportedWait
  | unknownOption
  deriving Repr, DecidableEq, Inhabited

def LintKind.name : LintKind → String
  | .malformedDirective => "malformed_annotation"
  | .unknownMarker => "unknown_marker"
  | .wrongTarget => "wrong_target"
  | .invalidPayload => "invalid_payload"
  | .missingPayload => "missing_payload"
  | .relativePath => "relative_path"
  | .unknownOperationLetter => "unknown_operation_letter"
  | .duplicateOperationSet => "duplicate_operation_set"
  | .duplicateUrlOverride => "duplicate_url_override"
  | .unsupportedVerb => "unsupported_verb"
  | .unsupportedWait => "unsupported_wait"
  | .unknownOption => "unknown_option"

structure Lint where
  location : String
  severity : Severity
  kind : LintKind
  message : String
  suggestion : Option String
  deriving Repr, DecidableEq, Inhabited

namespace Lint

def error (location : String) (kind : LintKind) (message : String) : Lint :=
  ⟨location, .error, kind, message, none⟩

def warning (location : String) (kind : LintKind) (message : String) : Lint :=
  ⟨location, .warning, kind, message, none⟩

def suggesting (lint : Lint) (suggestion : String) : Lint :=
  { lint with suggestion := some suggestion }

end Lint

end RestModel
