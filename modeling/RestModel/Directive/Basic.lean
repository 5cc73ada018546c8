import RestModel.Text.Pieces
import RestModel.Text.Blank
import RestModel.Verb

/-! # Directives

A directive is a line of a doc comment that starts with a plus sign. It names
a feature of a namespace and may carry arguments, an option and a payload:
`+namespace:feature:arguments[option(value)]=payload`. -/

namespace RestModel

/-- What a directive declares. -/
inductive Feature where
  | operations
  | extraMethod
  | asyncExtraMethod
  | requestUrl
  | responseUrl
  | details
  | upsert
  | basePath
  | skip
  | other (name : String)
  deriving Repr, DecidableEq, Inhabited

namespace Feature

def name : Feature → String
  | .operations => "ops"
  | .extraMethod => "extraMethod"
  | .asyncExtraMethod => "asyncExtraMethod"
  | .requestUrl => "requestUrl"
  | .responseUrl => "responseUrl"
  | .details => "details"
  | .upsert => "upsert"
  | .basePath => "basePath"
  | .skip => "skip"
  | .other name => name

def ofName : String → Feature
  | "ops" => .operations
  | "extraMethod" => .extraMethod
  | "asyncExtraMethod" => .asyncExtraMethod
  | "requestUrl" => .requestUrl
  | "responseUrl" => .responseUrl
  | "details" => .details
  | "upsert" => .upsert
  | "basePath" => .basePath
  | "skip" => .skip
  | name => .other name

end Feature

/-- The option of a directive, written `[name(value)]`. -/
structure DirectiveOption where
  name : String
  value : String
  deriving Repr, DecidableEq, Inhabited

/-- A directive by its parts, each without blanks at its ends. -/
structure Directive where
  text : String
  vocabulary : String
  feature : Feature
  /-- What follows the feature, such as `CRUD` or `POST|PUT`. -/
  arguments : Option String
  option : Option DirectiveOption
  payload : Option String
  deriving Repr, DecidableEq, Inhabited

inductive DirectiveError where
  | missingSigil (text : String)
  | missingFeature (text : String)
  | malformedOption (text : String)
  | unsupportedVerb (verb text : String)
  | missingPayload (subject : String)
  | invalidPayload (payload expected : String)
  deriving Repr, DecidableEq, Inhabited

def DirectiveError.message : DirectiveError → String
  | .missingSigil text => "annotation `" ++ text ++ "` does not start with the `+` sigil"
  | .missingFeature text => "annotation `" ++ text ++ "` has no namespace/feature separator"
  | .malformedOption text => "annotation `" ++ text ++ "` has a malformed option suffix"
  | .unsupportedVerb verb text => "unsupported HTTP verb `" ++ verb ++ "` in `" ++ text ++ "`"
  | .missingPayload subject => "annotation `" ++ subject ++ "` requires a path payload"
  | .invalidPayload payload expected =>
      "payload `" ++ payload ++ "` is not a valid " ++ expected

namespace Directive

/-- The name under which a marker of this feature is registered. -/
def markerName (directive : Directive) : String :=
  directive.vocabulary ++ ":" ++ directive.feature.name

/-- Read a list of verbs, keeping the first of equal ones. -/
def readVerbs (text : String) : List String → Except DirectiveError (List Verb)
  | [] => .ok []
  | piece :: rest =>
      match Verb.ofDirective? (Text.trim piece) with
      | none => .error (.unsupportedVerb (Text.trim piece) text)
      | some verb => do
          let others ← readVerbs text rest
          return verb :: others.filter (· ≠ verb)

def verbs (directive : Directive) : Except DirectiveError (List Verb) :=
  match directive.arguments with
  | none => .error (.unsupportedVerb "" directive.text)
  | some arguments => readVerbs directive.text (Text.pieces '|' arguments)

def requirePayload (directive : Directive) : Except DirectiveError String :=
  match directive.payload with
  | some payload => .ok payload
  | none => .error (.missingPayload directive.text)

end Directive

end RestModel
