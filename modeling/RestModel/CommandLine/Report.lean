import RestModel.CommandLine.Session
import RestModel.Lint.Basic
import RestModel.Support.Issue

/-! # Reports

The lines about findings and issues that people read. -/

namespace RestModel.CommandLine

def issueLines (issues : List Issue) : List String :=
  if issues.isEmpty then
    []
  else
    ["", "⚠️  " ++ exclusionCount issues.length ++ ":", ""] ++ issues.map Issue.line ++ [""]

def severityHeading : Severity → String
  | .error => "❌ Errors (must fix):"
  | .warning => "⚠️  Warnings (should fix):"
  | .info => "ℹ️  Info (best practices):"

def lintLines (lint : Lint) : List String :=
  ["   [" ++ lint.kind.name ++ "] " ++ lint.location, "      " ++ lint.message] ++
    lint.suggestion.toList.map fun suggestion => "      💡 Suggestion: " ++ suggestion

def lintsOf (severity : Severity) (lints : List Lint) : List Lint :=
  lints.filter fun lint => lint.severity = severity

def severityLines (lints : List Lint) (severity : Severity) : List String :=
  match lintsOf severity lints with
  | [] => []
  | found => severityHeading severity :: found.flatMap lintLines ++ [""]

def lintReport (lints : List Lint) : List String :=
  if lints.isEmpty then
    ["✅ No lint issues found!"]
  else
    let count := fun severity => toString (lintsOf severity lints).length
    ["", "📋 Lint Results:",
      "   " ++ count .error ++ " error(s), " ++ count .warning ++ " warning(s), " ++
        count .info ++ " info(s)",
      ""] ++
      Severity.all.flatMap (severityLines lints)

end RestModel.CommandLine
